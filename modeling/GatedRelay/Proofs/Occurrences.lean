import GatedRelay.Proofs.TextParts
import Mathlib.Data.List.Infix
import Mathlib.Order.Bounds.Basic
import Mathlib.Tactic.Common

/-!
# Occurrences of one text in another

The searches find the first and the last of the positions at which the needle stands in the text.
-/

namespace GatedRelay.Text

/-- The needle stands in the text after so many characters. The empty needle stands at the end,
too. -/
def OccursAt {α : Type} (needle text : List α) (i : Nat) : Prop :=
  i ≤ text.length ∧ needle <+: text.drop i

variable {α : Type} {needle text : List α} {c : α} {i : Nat}

lemma occursAt_nil_iff : OccursAt needle [] i ↔ i = 0 ∧ needle = [] := by
  simp [OccursAt]

@[simp]
lemma occursAt_zero_iff : OccursAt needle text 0 ↔ needle <+: text := by
  simp [OccursAt]

@[simp]
lemma occursAt_succ_iff : OccursAt needle (c :: text) (i + 1) ↔ OccursAt needle text i := by
  simp [OccursAt]

lemma occursAt_append (before after : List α) :
    OccursAt needle (before ++ (needle ++ after)) before.length := by
  constructor
  · simp
  · rw [List.drop_left]
    exact List.prefix_append needle after

/-- A text consists of an occurrence and of what stands before and after it. -/
lemma OccursAt.eq_append (h : OccursAt needle text i) :
    text = text.take i ++ (needle ++ text.drop (i + needle.length)) := by
  have hrest : needle ++ text.drop (i + needle.length) = text.drop i := by
    rw [← List.drop_drop]
    exact List.prefix_iff_eq_append.mp h.2
  rw [hrest, List.take_append_drop]

lemma OccursAt.add_length_le (h : OccursAt needle text i) : i + needle.length ≤ text.length := by
  have hi := h.1
  have hlength := h.2.length_le
  rw [List.length_drop] at hlength
  omega

lemma exists_occursAt_iff : (∃ i, OccursAt needle text i) ↔ needle <:+: text := by
  constructor
  · rintro ⟨i, h⟩
    rw [h.eq_append]
    exact List.infix_append' _ _ _
  · rintro ⟨before, after, rfl⟩
    rw [List.append_assoc]
    exact ⟨before.length, occursAt_append before after⟩

/-! ### First and last positions -/

lemma isLeast_occursAt_cons_zero (h : needle <+: c :: text) :
    IsLeast {j | OccursAt needle (c :: text) j} 0 :=
  ⟨occursAt_zero_iff.mpr h, fun j _ => Nat.zero_le j⟩

lemma isLeast_occursAt_cons_succ_iff (h : ¬needle <+: c :: text) :
    IsLeast {j | OccursAt needle (c :: text) j} (i + 1) ↔
      IsLeast {j | OccursAt needle text j} i := by
  constructor
  · rintro ⟨hi, hleast⟩
    refine ⟨occursAt_succ_iff.mp hi, fun j hj => ?_⟩
    have hle : i + 1 ≤ j + 1 := hleast (occursAt_succ_iff.mpr hj)
    omega
  · rintro ⟨hi, hleast⟩
    refine ⟨occursAt_succ_iff.mpr hi, fun j hj => ?_⟩
    cases j with
    | zero => exact absurd (occursAt_zero_iff.mp hj) h
    | succ j =>
      have hle : i ≤ j := hleast (occursAt_succ_iff.mp hj)
      omega

lemma isGreatest_occursAt_cons (h : IsGreatest {j | OccursAt needle text j} i) :
    IsGreatest {j | OccursAt needle (c :: text) j} (i + 1) := by
  refine ⟨occursAt_succ_iff.mpr h.1, fun j hj => ?_⟩
  cases j with
  | zero => exact Nat.zero_le _
  | succ j => exact Nat.succ_le_succ (h.2 (occursAt_succ_iff.mp hj))

/-- If the needle does not stand in the rest of a text, it can only stand at the start. -/
lemma isGreatest_occursAt_cons_iff (h : ¬needle <:+: text) :
    IsGreatest {j | OccursAt needle (c :: text) j} i ↔ i = 0 ∧ needle <+: c :: text := by
  have hstart {j : Nat} (hj : OccursAt needle (c :: text) j) : j = 0 := by
    cases j with
    | zero => rfl
    | succ j => exact absurd (exists_occursAt_iff.mp ⟨j, occursAt_succ_iff.mp hj⟩) h
  constructor
  · rintro ⟨hi, -⟩
    obtain rfl := hstart hi
    exact ⟨rfl, occursAt_zero_iff.mp hi⟩
  · rintro ⟨rfl, hprefix⟩
    exact ⟨occursAt_zero_iff.mpr hprefix, fun j hj => (hstart hj).le⟩

/-! ### Searches -/

variable [BEq α] [LawfulBEq α]

theorem indexOf?_eq_some_iff :
    indexOf? needle text = some i ↔ IsLeast {j | OccursAt needle text j} i := by
  induction text generalizing i with
  | nil =>
    by_cases hn : needle = []
    · simp [indexOf?, IsLeast, lowerBounds, occursAt_nil_iff, hn, eq_comm]
    · simp [indexOf?, IsLeast, occursAt_nil_iff, hn]
  | cons c rest ih =>
    rw [indexOf?]
    by_cases hc : needle <+: c :: rest
    · rw [if_pos (List.isPrefixOf_iff_prefix.mpr hc)]
      constructor
      · intro h
        rw [← Option.some.inj h]
        exact isLeast_occursAt_cons_zero hc
      · intro h
        rw [h.unique (isLeast_occursAt_cons_zero hc)]
    · rw [if_neg fun h => hc (List.isPrefixOf_iff_prefix.mp h)]
      cases i with
      | zero => simp [IsLeast, hc]
      | succ i => simp [isLeast_occursAt_cons_succ_iff hc, ih]

theorem indexOf?_eq_none_iff : indexOf? needle text = none ↔ ¬needle <:+: text := by
  rw [← isSome_indexOf?_iff, Option.isSome_iff_ne_none, not_not]

theorem lastIndexOf?_eq_none_iff : lastIndexOf? needle text = none ↔ ¬needle <:+: text := by
  induction text with
  | nil => cases needle <;> simp [lastIndexOf?]
  | cons c rest ih =>
    rw [lastIndexOf?, List.infix_cons_iff]
    cases hrest : lastIndexOf? needle rest with
    | none => simp [List.isPrefixOf_iff_prefix, ih.mp hrest]
    | some j =>
      have hoccurs : needle <:+: rest := by
        by_contra h
        rw [ih.mpr h] at hrest
        cases hrest
      simp [hoccurs]

theorem lastIndexOf?_eq_some_iff :
    lastIndexOf? needle text = some i ↔ IsGreatest {j | OccursAt needle text j} i := by
  induction text generalizing i with
  | nil =>
    by_cases hn : needle = []
    · simp [lastIndexOf?, IsGreatest, upperBounds, occursAt_nil_iff, hn, eq_comm]
    · simp [lastIndexOf?, IsGreatest, occursAt_nil_iff, hn]
  | cons c rest ih =>
    rw [lastIndexOf?]
    cases hrest : lastIndexOf? needle rest with
    | some j =>
      have hj : IsGreatest {j | OccursAt needle (c :: rest) j} (j + 1) :=
        isGreatest_occursAt_cons (ih.mp hrest)
      constructor
      · intro h
        rwa [← Option.some.inj h]
      · intro h
        rw [h.unique hj]
    | none =>
      rw [isGreatest_occursAt_cons_iff (lastIndexOf?_eq_none_iff.mp hrest),
        ← List.isPrefixOf_iff_prefix]
      by_cases hc : needle.isPrefixOf (c :: rest) = true
      · simp only [hc, if_true, Option.some.injEq, and_true]
        exact eq_comm
      · simp [hc]

end GatedRelay.Text
