import GatedRelay.Expr.Library
import GatedRelay.Proofs.Attempts
import GatedRelay.Proofs.ByteOffsets

/-!
# Indices in texts

All functions of texts that take or give an index count characters. So what a search finds is where
the text between two indices is the needle, and the text up to an index and the text from it on are
the whole.
-/

namespace GatedRelay.Expr

open Attempt
open Text (OccursAt)

variable {v w : Value} {s n : String}

namespace Library

/-- An index is a whole number up to the length. -/
lemma charIndex_eq_ok_iff {i : Int} (hv : v.number? = some (.whole i)) {length m : Nat} :
    charIndex length v = .ok m ↔ i = m ∧ m ≤ length := by
  have hwithin (r : Refusal) :
      (if 0 ≤ i ∧ i ≤ (length : Int) then Except.ok i.toNat else Except.error r) = .ok m ↔
        i = m ∧ m ≤ length := by
    split
    · simp only [Except.ok.injEq]
      omega
    · simp only [reduceCtorEq, false_iff]
      omega
  cases v <;> cases hv
  · exact hwithin _
  · exact hwithin _

/-- There is a text between two indices if they are in order and within the text. -/
lemma slice_eq_ok_iff {i j : Int} (hv : v.number? = some (.whole i))
    (hw : w.number? = some (.whole j)) {t : Value} :
    slice s [v, w] = .ok t ↔ ∃ m k : Nat, i = m ∧ j = k ∧ m ≤ k ∧ k ≤ s.length ∧
      t = .ofString ((s.toList.drop m).take (k - m)) := by
  simp only [slice, bind_eq_ok_iff, charIndex_eq_ok_iff hv, charIndex_eq_ok_iff hw,
    String.length_toList]
  constructor
  · rintro ⟨m, ⟨hm, -⟩, k, ⟨hk, hlength⟩, h⟩
    split at h
    · cases h
    · next hle =>
      refine ⟨m, k, hm, hk, not_lt.mp hle, hlength, ?_⟩
      rw [← Except.ok.inj h, List.drop_take]
  · rintro ⟨m, k, hm, hk, hle, hlength, rfl⟩
    refine ⟨m, ⟨hm, hle.trans hlength⟩, k, ⟨hk, hlength⟩, ?_⟩
    rw [if_neg (not_lt.mpr hle), List.drop_take]

lemma slice_rest {k : Nat} (hv : v.number? = some (.whole k)) (hk : k ≤ s.length) :
    slice s [v] = .ok (.ofString (s.toList.drop k)) := by
  have hstart : charIndex s.length v = .ok k := (charIndex_eq_ok_iff hv).mpr ⟨rfl, hk⟩
  rw [← String.length_toList] at hstart hk
  simp only [slice, hstart]
  dsimp only [bind, Except.bind]
  rw [if_neg (not_lt.mpr hk), List.take_length]

/-- The needle is the text between two indices that are as far apart as it is long if and only if it
stands at the first of them. -/
lemma slice_eq_needle_iff {i : Nat} (hv : v.number? = some (.whole i))
    (hw : w.number? = some (.whole (i + n.length))) :
    slice s [v, w] = .ok (.string n) ↔ OccursAt n.toList s.toList i := by
  have hsame (k : Nat) : .string n = Value.ofString ((s.toList.drop i).take (i + k - i)) ↔
      n.toList = (s.toList.drop i).take k := by
    rw [Value.ofString, Value.string.injEq, ← String.toList_inj, String.toList_ofList,
      Nat.add_sub_cancel_left]
  rw [slice_eq_ok_iff hv hw]
  constructor
  · rintro ⟨m, k, hm, hk, -, hlength, htext⟩
    obtain rfl : i = m := by omega
    obtain rfl : k = i + n.length := by omega
    rw [hsame, ← String.length_toList, ← List.prefix_iff_eq_take] at htext
    refine ⟨?_, htext⟩
    rw [String.length_toList]
    omega
  · intro h
    have hlength := h.add_length_le
    rw [String.length_toList, String.length_toList] at hlength
    refine ⟨i, i + n.length, rfl, by simp, Nat.le_add_right _ _, hlength, ?_⟩
    rw [hsame, ← String.length_toList, ← List.prefix_iff_eq_take]
    exact h.2

lemma characterAt_of_lt {k : Int64} (hk : 0 ≤ k.toInt) (hlt : k.toInt < s.length) :
    characterAt s k = .value (.ofString ((s.toList.drop k.toInt.toNat).take 1)) := by
  rw [characterAt, if_pos ⟨hk, by rw [String.length_toList]; omega⟩]

end Library

/-! ### Calls -/

section Calls

variable (now : Moment)

lemma apply_substring_eq_ok_iff {args : List Value} {t : Value} :
    (Function.library .substring).apply now (.string s :: args) = .ok t ↔
      Library.slice s args = .ok t := by
  have happly : (Function.library .substring).apply now (.string s :: args) =
      (Outcome.ofRefusal (Library.slice s args)).toEval "substring" := rfl
  rw [happly]
  cases Library.slice s args <;> simp [Outcome.ofRefusal, Outcome.toEval, fail]

/-- The search goes over bytes, and gives the position that a search over characters finds. -/
lemma apply_indexOf : (Function.library .indexOf).apply now [.string s, .string n] =
    (Library.position (Text.indexOf? n.toList s.toList)).toEval "indexOf" := by
  rw [← Text.indexOf?_encode]
  rfl

lemma apply_lastIndexOf : (Function.library .lastIndexOf).apply now [.string s, .string n] =
    (Library.position (Text.lastIndexOf? n.toList s.toList)).toEval "lastIndexOf" := by
  rw [← Text.lastIndexOf?_encode]
  rfl

/-- A search gives the position that is looked for, as far as ints go, and -1 if the text holds no
needle. -/
def GivesPosition (f : Library) (s n : String) (IsFound : Nat → Prop) : Prop :=
  ∃ r : Int64, (Function.library f).apply now [.string s, .string n] = .ok (.int r) ∧
    (r = -1 ↔ ¬n.toList <:+: s.toList) ∧
    (n.toList <:+: s.toList → ∃ i, IsFound i ∧ r.toInt = min (i : Int) 0x7fffffffffffffff)

lemma givesPosition_of_search {f : Library} {IsFound : Nat → Prop} {found? : Option Nat}
    (happly : (Function.library f).apply now [.string s, .string n] =
      (Library.position found?).toEval f.handler)
    (hnone : found? = none ↔ ¬n.toList <:+: s.toList)
    (hsome : ∀ i, found? = some i ↔ IsFound i) : GivesPosition now f s n IsFound := by
  cases hfound : found? with
  | none =>
    have habsent := hnone.mp hfound
    rw [hfound] at happly
    exact ⟨-1, happly, by simp [habsent], fun h => absurd h habsent⟩
  | some i =>
    have hoccurs : n.toList <:+: s.toList := by
      by_contra h
      rw [hnone.mpr h] at hfound
      cases hfound
    rw [hfound] at happly
    have hint : (Int64.ofNat (min i 0x7fffffffffffffff)).toInt =
        min (i : Int) 0x7fffffffffffffff := by
      rw [Int64.toInt_ofNat_of_lt (by omega)]
      omega
    have hne : Int64.ofNat (min i 0x7fffffffffffffff) ≠ -1 := by
      intro hminus
      rw [hminus] at hint
      have hone : (-1 : Int64).toInt = -1 := by decide
      omega
    exact ⟨_, happly, iff_of_false hne (not_not.mpr hoccurs),
      fun _ => ⟨i, (hsome i).mp hfound, hint⟩⟩

end Calls

/-- Indices count characters. A search gives the first or the last index from which on the text is
the needle, there is a text between two indices if they are in order and within the text, the texts
up to an index and from it on make the whole, and the character at an index is the text from it to
the next one. -/
theorem indices_count_characters (now : Moment) (s n : String) :
    GivesPosition now .indexOf s n (IsLeast {i | OccursAt n.toList s.toList i}) ∧
    GivesPosition now .lastIndexOf s n (IsGreatest {i | OccursAt n.toList s.toList i}) ∧
    (∀ (v w : Value) (i : Nat), v.number? = some (.whole i) →
      w.number? = some (.whole (i + n.length)) →
      ((Function.library .substring).apply now [.string s, v, w] = .ok (.string n) ↔
        OccursAt n.toList s.toList i)) ∧
    (∀ (v w : Value) (i j : Int), v.number? = some (.whole i) → w.number? = some (.whole j) →
      ((∃ t, (Function.library .substring).apply now [.string s, v, w] = .ok t) ↔
        0 ≤ i ∧ i ≤ j ∧ j ≤ s.length)) ∧
    (∀ (v : Value) (k : Int), v.number? = some (.whole k) → 0 ≤ k → k ≤ s.length →
      ∃ a b, (Function.library .substring).apply now [.string s, .int 0, v] = .ok (.string a) ∧
        (Function.library .substring).apply now [.string s, v] = .ok (.string b) ∧
        a ++ b = s) ∧
    ∀ (k : Int64) (w : Value), w.number? = some (.whole (k.toInt + 1)) → 0 ≤ k.toInt →
      k.toInt < s.length →
      ∃ c, (Function.library .charAt).apply now [.string s, .int k] = .ok (.string c) ∧
        (Function.library .substring).apply now [.string s, .int k, w] = .ok (.string c) := by
  refine ⟨?_, ?_, ?_, ?_, ?_, ?_⟩
  · exact givesPosition_of_search now (apply_indexOf now) Text.indexOf?_eq_none_iff
      fun i => Text.indexOf?_eq_some_iff
  · exact givesPosition_of_search now (apply_lastIndexOf now) Text.lastIndexOf?_eq_none_iff
      fun i => Text.lastIndexOf?_eq_some_iff
  · intro v w i hv hw
    rw [apply_substring_eq_ok_iff, Library.slice_eq_needle_iff hv hw]
  · intro v w i j hv hw
    simp only [apply_substring_eq_ok_iff, Library.slice_eq_ok_iff hv hw]
    constructor
    · rintro ⟨t, m, k, hm, hk, hle, hlength, -⟩
      omega
    · rintro ⟨hi, hle, hlength⟩
      exact ⟨_, i.toNat, j.toNat, by omega, by omega, by omega, by omega, rfl⟩
  · intro v k hv hk hlength
    have hv' : v.number? = some (.whole k.toNat) := by rw [hv, Int.toNat_of_nonneg hk]
    refine ⟨String.ofList (s.toList.take k.toNat), String.ofList (s.toList.drop k.toNat), ?_, ?_, ?_⟩
    · rw [apply_substring_eq_ok_iff, Library.slice_eq_ok_iff rfl hv']
      exact ⟨0, k.toNat, rfl, rfl, Nat.zero_le _, by omega, rfl⟩
    · rw [apply_substring_eq_ok_iff, Library.slice_rest hv' (by omega)]
      rfl
    · rw [← String.ofList_append, List.take_append_drop, String.ofList_toList]
  · intro k w hw hk hlt
    refine ⟨String.ofList ((s.toList.drop k.toInt.toNat).take 1), ?_, ?_⟩
    · have happly : (Function.library .charAt).apply now [.string s, .int k] =
          (Library.characterAt s k).toEval "charAt" := rfl
      rw [happly, Library.characterAt_of_lt hk hlt]
      rfl
    · rw [apply_substring_eq_ok_iff, Library.slice_eq_ok_iff rfl hw]
      refine ⟨k.toInt.toNat, k.toInt.toNat + 1, by omega, by omega, Nat.le_succ _, by omega, ?_⟩
      rw [Nat.add_sub_cancel_left]
      rfl

end GatedRelay.Expr
