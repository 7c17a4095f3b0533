import GatedRelay.Net.HostPort
import Mathlib.Data.List.Basic
import Mathlib.Tactic.Common

/-!
# Hosts and ports

A peer is a host and a port with a colon between them. Where it is split is settled by its brackets
and its colons, so that a joined address gives its host back.
-/

namespace GatedRelay.HostPort

/-- A host and a port with a colon between them. The port holds no colon, and a host that holds
colons stands in brackets. -/
def IsPeer (addr host : List Char) : Prop :=
  (∃ port, addr = host ++ ':' :: port ∧ ':' ∉ host ∧ '[' ∉ host ∧ ']' ∉ host ∧ ':' ∉ port) ∨
    ∃ port, addr = '[' :: (host ++ ']' :: ':' :: port) ∧ host ≠ [] ∧ ']' ∉ host ∧ ':' ∉ port

lemma host?_bracket_iff {rest host : List Char} :
    host? ('[' :: rest) = some host ↔
      ∃ port, rest = host ++ ']' :: ':' :: port ∧ host ≠ [] ∧ ']' ∉ host ∧ ':' ∉ port := by
  constructor
  · intro h
    rw [host?] at h
    split at h
    · cases h
    · next before port hcut =>
      split_ifs at h with hbad
      cases h
      obtain ⟨rfl, hclose⟩ := Text.cutAt?_eq_some_iff.mp hcut
      rw [not_or] at hbad
      exact ⟨port, rfl, by simpa using hbad.2, hclose, by simpa using hbad.1⟩
    · cases h
  · rintro ⟨port, rfl, hne, hclose, hcolon⟩
    have hcut : Text.cutAt? ']' (host ++ ']' :: ':' :: port) = some (host, ':' :: port) :=
      Text.cutAt?_eq_some_iff.mpr ⟨rfl, hclose⟩
    rw [host?, hcut]
    exact if_neg (by simp [hne, hcolon])

lemma host?_plain_iff {addr host : List Char} (h : ∀ rest, addr ≠ '[' :: rest) :
    host? addr = some host ↔
      ∃ port, addr = host ++ ':' :: port ∧ ':' ∉ host ∧ '[' ∉ host ∧ ']' ∉ host ∧ ':' ∉ port := by
  constructor
  · intro hh
    unfold host? at hh
    split at hh
    · next rest => exact absurd rfl (h rest)
    · split at hh
      · cases hh
      · next before port hcut =>
        split_ifs at hh with hbad
        cases hh
        obtain ⟨rfl, hcolon⟩ := Text.cutAtLast?_eq_some_iff.mp hcut
        simp only [not_or, List.contains_iff_mem] at hbad
        exact ⟨port, rfl, hbad.1, hbad.2.1, hbad.2.2, hcolon⟩
  · rintro ⟨port, rfl, hcolon, hopen, hclose, hport⟩
    have hcut : Text.cutAtLast? ':' (host ++ ':' :: port) = some (host, port) :=
      Text.cutAtLast?_eq_some_iff.mpr ⟨rfl, hport⟩
    rw [host?, hcut]
    · exact if_neg (by simp [hcolon, hopen, hclose])
    · exact h

lemma host?_eq_some_iff {addr host : List Char} : host? addr = some host ↔ IsPeer addr host := by
  by_cases hopen : ∃ rest, addr = '[' :: rest
  · obtain ⟨rest, rfl⟩ := hopen
    have hplain : ¬∃ port, '[' :: rest = host ++ ':' :: port ∧ ':' ∉ host ∧ '[' ∉ host ∧
        ']' ∉ host ∧ ':' ∉ port := by
      rintro ⟨port, heq, -, hmem, -⟩
      rcases List.cons_eq_append_iff.mp heq with ⟨-, heq⟩ | ⟨more, rfl, -⟩
      · cases heq
      · exact hmem List.mem_cons_self
    rw [host?_bracket_iff, IsPeer, or_iff_right hplain]
    simp only [List.cons.injEq, true_and]
  · have hne : ∀ rest, addr ≠ '[' :: rest := fun rest heq => hopen ⟨rest, heq⟩
    rw [host?_plain_iff hne, IsPeer, or_iff_left]
    rintro ⟨port, heq, -⟩
    exact hne _ heq

lemma split?_eq_some_iff {addr host : String} :
    split? addr = some host ↔ IsPeer addr.toList host.toList := by
  rw [← host?_eq_some_iff, split?, Option.map_eq_some_iff]
  constructor
  · rintro ⟨cs, hcs, rfl⟩
    rw [hcs, String.toList_ofList]
  · intro h
    exact ⟨host.toList, h, String.ofList_toList⟩

lemma isSome_split?_iff {addr : String} :
    (split? addr).isSome ↔ ∃ host, IsPeer addr.toList host := by
  rw [split?, Option.isSome_map, Option.isSome_iff_exists]
  exact exists_congr fun host => host?_eq_some_iff

/-- The address of a host and a port. A host that holds a colon stands in brackets. -/
def join (host port : String) : String :=
  if ':' ∈ host.toList then "[" ++ host ++ "]:" ++ port else host ++ ":" ++ port

lemma isPeer_join {host port : String} (hne : host ≠ "") (hopen : '[' ∉ host.toList)
    (hclose : ']' ∉ host.toList) (hport : ':' ∉ port.toList) :
    IsPeer (join host port).toList host.toList := by
  have hne' : host.toList ≠ [] := by simpa using hne
  by_cases hcolon : ':' ∈ host.toList
  · exact .inr ⟨port.toList, by simp [join, hcolon], hne', hclose, hport⟩
  · exact .inl ⟨port.toList, by simp [join, hcolon], hcolon, hopen, hclose, hport⟩

/-- The addresses of peers are split, and no other texts; so a joined address gives its host
back. -/
theorem split?_isPeer_iff :
    (∀ addr host, split? addr = some host ↔ IsPeer addr.toList host.toList) ∧
      ∀ host port, host ≠ "" → '[' ∉ host.toList → ']' ∉ host.toList → ':' ∉ port.toList →
        split? (join host port) = some host := by
  refine ⟨fun addr host => split?_eq_some_iff, ?_⟩
  intro host port hne hopen hclose hport
  exact split?_eq_some_iff.mpr (isPeer_join hne hopen hclose hport)

theorem split?_isPeer_iff_bracketed :
    join "::1" "8080" = "[::1]:8080" ∧ split? (join "::1" "8080") = some "::1" :=
  ⟨by decide, split?_isPeer_iff.2 "::1" "8080" (by decide) (by decide) (by decide) (by decide)⟩

end GatedRelay.HostPort
