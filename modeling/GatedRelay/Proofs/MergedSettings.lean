import GatedRelay.Config.Settings
import GatedRelay.Proofs.TextParts

/-!
# Merged settings

Of an argument and a value of the file, the first that is more than blanks should be the setting.
It is, unless a blank argument stands before a value of the file: then neither of them is.
-/

namespace GatedRelay.Settings

open Text (trimString trimString_eq_empty_iff isBlankString)

/-- A value that is more than blanks. -/
def filled (v : Option String) : Option String := v.filter fun s => trimString s ≠ ""

/-- The first value that is more than blanks. -/
def firstFilled (values : List (Option String)) : Option String := values.findSome? filled

/-- What stands for a text that is not given. -/
def fallback : Field → Option String
  | .handlerPath => some defaultHandlerPath
  | .project | .topic | .control | .message | .response => none

/-- There is a value in the file, but a blank argument goes before it. -/
def HiddenByBlank (args file : Options) (f : Field) : Prop :=
  (∃ a, args.get? f = some a ∧ filled (some a) = none) ∧ ∃ v, filled (file.get? f) = some v

lemma filled_none : filled none = none := rfl

lemma eq_some_of_filled {v : Option String} {s : String} (h : filled v = some s) : v = some s :=
  (Option.filter_eq_some_iff.mp h).1

lemma firstFilled_pair (a v : Option String) : firstFilled [a, v] = (filled a).or (filled v) := by
  rw [firstFilled, List.findSome?_cons, List.findSome?_singleton]
  cases filled a <;> rfl

lemma merge_get? (args file : Options) (f : Field) :
    (merge args file).get? f = (pick args file f).or (fallback f) := by
  cases f with
  | handlerPath =>
    change some ((pick args file .handlerPath).getD defaultHandlerPath) = _
    cases pick args file .handlerPath <;> rfl
  | project | topic | control | message | response => exact (Option.or_none ..).symm

/-- The choice between argument and file comes before the look at blanks. -/
lemma pick_eq (args file : Options) (f : Field) :
    pick args file f = filled ((args.get? f).or (file.get? f)) := by
  have hblank : (fun v => !isBlankString v) = fun v => decide (trimString v ≠ "") := by
    funext v
    simp only [ne_eq, trimString_eq_empty_iff, decide_not, Bool.decide_eq_true]
  rw [pick, hblank, filled]
  cases args.get? f <;> rfl

lemma pick_of_hiddenByBlank {args file : Options} {f : Field} (h : HiddenByBlank args file f) :
    pick args file f = none := by
  obtain ⟨⟨a, ha, hblank⟩, -⟩ := h
  rw [pick_eq, ha, Option.some_or, hblank]

lemma pick_of_not_hiddenByBlank {args file : Options} {f : Field}
    (h : ¬HiddenByBlank args file f) :
    pick args file f = firstFilled [args.get? f, file.get? f] := by
  rw [pick_eq, firstFilled_pair]
  cases ha : args.get? f with
  | none => rw [filled_none, Option.none_or, Option.none_or]
  | some a =>
    rw [Option.some_or]
    cases hblank : filled (some a) with
    | some s => rw [Option.some_or]
    | none =>
      cases hv : filled (file.get? f) with
      | none => rfl
      | some v => exact absurd ⟨⟨a, ha, hblank⟩, v, hv⟩ h

/-- The setting is the first value that is more than blanks, else what stands for none, except
that a blank argument hides the value of the file. -/
theorem merge_firstFilled_iff (args file : Options) (f : Field) :
    ((merge args file).get? f = (firstFilled [args.get? f, file.get? f]).or (fallback f) ↔
      ¬(HiddenByBlank args file f ∧ file.get? f ≠ fallback f)) ∧
    (HiddenByBlank args file f → (merge args file).get? f = fallback f) := by
  by_cases h : HiddenByBlank args file f
  · have hmerge : (merge args file).get? f = fallback f := by
      rw [merge_get?, pick_of_hiddenByBlank h, Option.none_or]
    obtain ⟨⟨a, ha, hblank⟩, v, hv⟩ := id h
    have hfirst : firstFilled [args.get? f, file.get? f] = file.get? f := by
      rw [firstFilled_pair, ha, hblank, Option.none_or, hv, eq_some_of_filled hv]
    have hor : (file.get? f).or (fallback f) = file.get? f := by
      rw [eq_some_of_filled hv, Option.some_or]
    rw [hmerge, hfirst, hor]
    simp only [h, true_and, not_not, forall_const, and_true]
    exact eq_comm
  · rw [merge_get?, pick_of_not_hiddenByBlank h]
    simp only [h, false_and, not_false_eq_true, false_implies, and_self]

/-- The file names a path for the handler, and a blank argument makes it the default. -/
theorem blank_argument_hides_path :
    let args : Options := { Options.empty with handlerPath := some " " }
    let file : Options := { Options.empty with handlerPath := some "/hook" }
    (merge args file).get? .handlerPath = some "/" ∧
      (firstFilled [args.get? .handlerPath, file.get? .handlerPath]).or (fallback .handlerPath) =
        some "/hook" := by
  decide +kernel

end GatedRelay.Settings
