import GatedRelay.Text.Blank
import GatedRelay.Text.Search
import Mathlib.Data.List.Basic
import Mathlib.Data.List.Infix
import Mathlib.Data.List.TakeWhile
import Mathlib.Tactic.Common

/-!
# Parts of texts

Blanks around a text, slashes at its end, and texts within others.
-/

namespace GatedRelay.Text

/-- What is left of a text without the blanks around it is empty for blank texts only. -/
lemma trimString_eq_empty_iff (s : String) : trimString s = "" ↔ isBlankString s = true := by
  have htrim : trimString s = "" ↔ trim s.toList = [] := by
    rw [trimString, ← String.toList_inj, String.toList_ofList]
    rfl
  rw [htrim, trim, dropBlankRight, isBlankString, List.reverse_eq_nil_iff,
    List.dropWhile_eq_nil_iff, List.all_eq_true]
  constructor
  · intro h c hc
    rw [← List.takeWhile_append_dropWhile (p := isBlank) (l := s.toList)] at hc
    rcases List.mem_append.mp hc with hc | hc
    · exact List.mem_takeWhile_imp hc
    · exact h c (List.mem_reverse.mpr hc)
  · intro h c hc
    exact h c ((List.dropWhile_suffix _).subset (List.mem_reverse.mp hc))

/-- A text up to the slashes at its end. -/
def IsStem (stem s : String) : Prop :=
  (∃ n, s = stem ++ String.ofList (List.replicate n '/')) ∧ stem.toList.getLast? ≠ some '/'

lemma isStem_dropRightSlashes (s : String) : IsStem (dropRightSlashes s) s := by
  have hsplit := List.takeWhile_append_dropWhile (p := (· = '/')) (l := s.toList.reverse)
  constructor
  · refine ⟨(s.toList.reverse.takeWhile (· = '/')).length, ?_⟩
    have hslashes : s.toList.reverse.takeWhile (· = '/') =
        List.replicate (s.toList.reverse.takeWhile (· = '/')).length '/' := by
      rw [List.eq_replicate_length]
      intro c hc
      simpa using List.mem_takeWhile_imp hc
    rw [← String.toList_inj, String.toList_append, dropRightSlashes, String.toList_ofList,
      String.toList_ofList, ← List.reverse_replicate, ← hslashes, ← List.reverse_append, hsplit,
      List.reverse_reverse]
  · rw [dropRightSlashes, String.toList_ofList, List.getLast?_reverse]
    intro hlast
    have hhead := List.head?_dropWhile_not (· = '/') s.toList.reverse
    rw [hlast] at hhead
    simp at hhead

theorem isStem_iff {stem s : String} : IsStem stem s ↔ stem = dropRightSlashes s := by
  constructor
  · rintro ⟨⟨n, hs⟩, hlast⟩
    have hslashes : (List.replicate n '/').dropWhile (· = '/') = [] := by
      rw [List.dropWhile_eq_nil_iff]
      intro c hc
      simpa using List.eq_of_mem_replicate hc
    have hstem : stem.toList.reverse.dropWhile (· = '/') = stem.toList.reverse := by
      rw [← List.head?_reverse] at hlast
      cases hrev : stem.toList.reverse with
      | nil => rfl
      | cons c rest =>
        rw [hrev, List.head?_cons] at hlast
        exact List.dropWhile_cons_of_neg (by simpa using hlast)
    rw [hs, dropRightSlashes, String.toList_append, String.toList_ofList, List.reverse_append,
      List.reverse_replicate, List.dropWhile_append, hslashes, List.isEmpty_nil, if_pos rfl, hstem,
      List.reverse_reverse, String.ofList_toList]
  · rintro rfl
    exact isStem_dropRightSlashes s

lemma isSome_indexOf?_iff {α : Type} [BEq α] [LawfulBEq α] {needle text : List α} :
    (indexOf? needle text).isSome = true ↔ needle <:+: text := by
  induction text with
  | nil => cases needle <;> simp [indexOf?]
  | cons c rest ih =>
    rw [List.infix_cons_iff, ← ih, indexOf?]
    by_cases hc : needle.isPrefixOf (c :: rest) = true
    · simp [hc, List.isPrefixOf_iff_prefix.mp hc]
    · have hprefix : ¬needle <+: c :: rest := fun h => hc (List.isPrefixOf_iff_prefix.mpr h)
      simp [hc, hprefix]

lemma occursIn_eq_true_iff {needle text : List Char} :
    occursIn needle text = true ↔ needle <:+: text := isSome_indexOf?_iff

end GatedRelay.Text
