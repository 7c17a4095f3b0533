import GatedRelay.Proofs.JsonForms
import GatedRelay.Proofs.PrintedJson
import GatedRelay.Proofs.Republishing
import Mathlib.Tactic.Tauto

/-!
# Values as messages and as answers

Lists and maps are the same JSON in a message and in an answer, and they are refused for the same
reason. Texts, `null` and all other values part the two.
-/

namespace GatedRelay

open GatedRelay.Expr (Value)

/-- The outcome is a rejection of this kind at this stage. -/
def RejectedAs {α : Type} (kind : RejectKind) (stage : Stage) (outcome : Except Rejection α) :
    Prop :=
  ∃ r, outcome = .error r ∧ r.kind = kind ∧ r.stage = stage

section RejectedAs

variable {ε α : Type} {kind : RejectKind} {stage : Stage}

lemma not_rejectedAs_ok (a : α) : ¬RejectedAs kind stage (.ok a) := by
  rintro ⟨r, ⟨⟩, -⟩

lemma rejectedAs_error_iff (r : Rejection) :
    RejectedAs kind stage (.error r : Except Rejection α) ↔ kind = r.kind ∧ stage = r.stage := by
  constructor
  · rintro ⟨r, ⟨⟩, rfl, rfl⟩
    exact ⟨rfl, rfl⟩
  · rintro ⟨rfl, rfl⟩
    exact ⟨r, rfl, rfl, rfl⟩

/-- Where every failure is a service error of one stage. -/
lemma rejectedAs_mapError_iff (x : Except ε α) (stage' : Stage) (cause : ε → Cause) :
    RejectedAs kind stage (x.mapError fun e => .service stage' (cause e)) ↔
      (kind = .serviceError ∧ stage = stage') ∧ ∃ e, x = .error e := by
  cases x with
  | ok a => exact iff_of_false (not_rejectedAs_ok a) fun h => nomatch h.2.choose_spec
  | error e => exact (rejectedAs_error_iff _).trans (and_iff_left ⟨e, rfl⟩).symm

end RejectedAs

namespace Expr.Value

/-- A list or map that does not become JSON. -/
def IsRejectedContainer (v : Value) : Prop := v.isContainer = true ∧ ∃ e, v.toJson = .error e

/-- Neither a text nor a list nor a map. -/
def IsPlain (v : Value) : Prop := v.isContainer = false ∧ ∀ s, v ≠ .string s

/-- A text that is not JSON, or the JSON `null`. -/
def IsRejectedText (v : Value) : Prop :=
  ∃ s, v = .string s ∧ (Json.parseString? s = none ∨ Json.parseString? s = some .null)

section Kinds

variable {v : Value}

lemma isRejectedContainer_iff (hv : v.isContainer = true) :
    v.IsRejectedContainer ↔ ∃ e, v.toJson = .error e :=
  and_iff_right hv

lemma isRejectedText_string_iff (s : String) : (string s).IsRejectedText ↔
    Json.parseString? s = none ∨ Json.parseString? s = some .null := by
  constructor
  · rintro ⟨s, ⟨⟩, h⟩
    exact h
  · intro h
    exact ⟨s, rfl, h⟩

lemma not_isPlain_of_container (hv : v.isContainer = true) : ¬v.IsPlain := by
  rintro ⟨hplain, -⟩
  rw [hv] at hplain
  cases hplain

lemma not_isPlain_string (s : String) : ¬(string s).IsPlain := fun h => h.2 s rfl

lemma not_isRejectedText_of_container (hv : v.isContainer = true) : ¬v.IsRejectedText := by
  rintro ⟨s, rfl, -⟩
  cases hv

lemma not_isRejectedContainer_string (s : String) : ¬(string s).IsRejectedContainer :=
  fun h => nomatch h.1

lemma IsPlain.not_isRejectedContainer (hv : v.IsPlain) : ¬v.IsRejectedContainer :=
  fun h => not_isPlain_of_container h.1 hv

lemma container_or_string_or_plain (v : Value) :
    v.isContainer = true ∨ (∃ s, v = .string s) ∨ v.IsPlain := by
  cases v with
  | list place items => exact .inl rfl
  | map place entries => exact .inl rfl
  | string s => exact .inr (.inl ⟨s, rfl⟩)
  | _ => exact .inr (.inr ⟨rfl, nofun⟩)

end Kinds

end Expr.Value

open GatedRelay.Expr.Value (isRejectedContainer_iff isRejectedText_string_iff
  not_isPlain_of_container not_isPlain_string not_isRejectedText_of_container
  not_isRejectedContainer_string)

/-! ### Lists and maps -/

section Containers

variable {v : Value} (hv : v.isContainer = true)
include hv

lemma messageOf_of_container :
    messageOf v = v.toJson.mapError fun e => .service .extraction (.badMessage e) := by
  cases v with
  | list place items => unfold messageOf; cases (Value.list place items).toJson <;> rfl
  | map place entries => unfold messageOf; cases (Value.map place entries).toJson <;> rfl
  | _ => cases hv

lemma answerOf_of_container :
    answerOf v = (v.toJson.map fun j => .json j.bytes).mapError
      fun e => .service .response (.badResponse e) := by
  cases v with
  | list place items => unfold answerOf; cases (Value.list place items).toJson <;> rfl
  | map place entries => unfold answerOf; cases (Value.map place entries).toJson <;> rfl
  | _ => cases hv

lemma rejectedAs_messageOf_of_container {kind : RejectKind} {stage : Stage} :
    RejectedAs kind stage (messageOf v) ↔
      (kind = .serviceError ∧ stage = .extraction) ∧ ∃ e, v.toJson = .error e := by
  rw [messageOf_of_container hv]
  exact rejectedAs_mapError_iff _ _ _

lemma rejectedAs_answerOf_of_container {kind : RejectKind} {stage : Stage} :
    RejectedAs kind stage (answerOf v) ↔
      (kind = .serviceError ∧ stage = .response) ∧ ∃ e, v.toJson = .error e := by
  rw [answerOf_of_container hv, rejectedAs_mapError_iff]
  simp only [Attempt.map_eq_error_iff]

/-- The bytes of an answer are those of the message and of no other JSON. -/
lemma messageOf_eq_ok_iff_answerOf (j : Json) :
    messageOf v = .ok j ↔ answerOf v = .ok (.json j.bytes) := by
  rw [messageOf_of_container hv, answerOf_of_container hv]
  cases v.toJson with
  | ok j' =>
    constructor
    · rintro ⟨⟩
      rfl
    · intro h
      have hbytes : j'.bytes = j.bytes := AnswerBody.json.inj (Except.ok.inj h)
      exact congrArg Except.ok (Json.bytes_injective hbytes)
  | error e => exact iff_of_false nofun nofun

end Containers

/-! ### All values -/

lemma rejectedAs_messageOf_string {kind : RejectKind} {stage : Stage} (s : String) :
    RejectedAs kind stage (messageOf (.string s)) ↔
      (kind = .clientError ∧ stage = .extraction) ∧
        (Json.parseString? s = none ∨ Json.parseString? s = some .null) := by
  cases h : Json.parseString? s with
  | none =>
    rw [messageOf, h]
    exact (rejectedAs_error_iff _).trans (and_iff_left (.inl rfl)).symm
  | some j =>
    by_cases hj : j = .null
    · subst hj
      rw [messageOf, h]
      exact (rejectedAs_error_iff _).trans (and_iff_left (.inr rfl)).symm
    · rw [messageOf_string h hj]
      exact iff_of_false (not_rejectedAs_ok j) (by simpa using fun _ _ => hj)

lemma messageOf_of_plain {v : Value} (hv : v.IsPlain) :
    messageOf v = .error (.client .extraction (.notAMessage (outputKind v))) := by
  cases v with
  | string s => exact absurd rfl (hv.2 s)
  | list place items => exact nomatch hv.1
  | map place entries => exact nomatch hv.1
  | _ => rfl

lemma answerOf_of_plain {v : Value} (hv : v.IsPlain) (hnull : v ≠ .null) :
    answerOf v = .ok .empty := by
  cases v with
  | null => exact absurd rfl hnull
  | string s => exact absurd rfl (hv.2 s)
  | list place items => exact nomatch hv.1
  | map place entries => exact nomatch hv.1
  | _ => rfl

lemma rejectedAs_messageOf_iff (v : Value) {kind : RejectKind} {stage : Stage} :
    RejectedAs kind stage (messageOf v) ↔ stage = .extraction ∧
      (kind = .serviceError ∧ v.IsRejectedContainer ∨
        kind = .clientError ∧ (v.IsPlain ∨ v.IsRejectedText)) := by
  rcases v.container_or_string_or_plain with hv | ⟨s, rfl⟩ | hv
  · simp only [rejectedAs_messageOf_of_container hv, isRejectedContainer_iff hv,
      not_isPlain_of_container hv, not_isRejectedText_of_container hv, or_false, and_false]
    tauto
  · simp only [rejectedAs_messageOf_string, not_isRejectedContainer_string, not_isPlain_string,
      isRejectedText_string_iff, and_false, false_or]
    tauto
  · have hmessage : RejectedAs kind stage (messageOf v) ↔
        kind = .clientError ∧ stage = .extraction := by
      rw [messageOf_of_plain hv]
      exact rejectedAs_error_iff _
    simp only [hmessage, hv, hv.not_isRejectedContainer, and_false, false_or, true_or, and_true]
    tauto

lemma rejectedAs_answerOf_iff (v : Value) {kind : RejectKind} {stage : Stage} :
    RejectedAs kind stage (answerOf v) ↔ stage = .response ∧ kind = .serviceError ∧
      (v = .null ∨ v.IsRejectedContainer) := by
  rcases v.container_or_string_or_plain with hv | ⟨s, rfl⟩ | hv
  · have hnull : v ≠ .null := by
      rintro rfl
      cases hv
    simp only [rejectedAs_answerOf_of_container hv, isRejectedContainer_iff hv, hnull, false_or]
    tauto
  · refine iff_of_false (not_rejectedAs_ok _) ?_
    rintro ⟨-, -, h | h⟩
    · cases h
    · exact not_isRejectedContainer_string s h
  · by_cases hnull : v = .null
    · subst hnull
      have hanswer : RejectedAs kind stage (answerOf .null) ↔
          kind = .serviceError ∧ stage = .response := rejectedAs_error_iff _
      tauto
    · rw [answerOf_of_plain hv hnull]
      refine iff_of_false (not_rejectedAs_ok _) ?_
      rintro ⟨-, -, h | h⟩
      · exact hnull h
      · exact hv.not_isRejectedContainer h

/-- A message is never `null`. It is refused with a service error if a list or map does not become
JSON, and with a client error if the value is neither text nor list nor map, or a text that is not
JSON or is the JSON `null`. For a list or map the answer has the bytes of the message, and answers
are refused for `null` and for lists and maps that do not become JSON. -/
theorem message_and_answer_of_value (v : Value) :
    messageOf v ≠ .ok .null ∧
    (RejectedAs .serviceError .extraction (messageOf v) ↔ v.IsRejectedContainer) ∧
    (RejectedAs .clientError .extraction (messageOf v) ↔ v.IsPlain ∨ v.IsRejectedText) ∧
    (v.isContainer = true → ∀ j, messageOf v = .ok j ↔ answerOf v = .ok (.json j.bytes)) ∧
    (RejectedAs .serviceError .response (answerOf v) ↔ v = .null ∨ v.IsRejectedContainer) := by
  refine ⟨fun h => messageOf_ne_null h rfl, ?_, ?_, messageOf_eq_ok_iff_answerOf, ?_⟩
  · simp [rejectedAs_messageOf_iff]
  · simp [rejectedAs_messageOf_iff]
  · simp [rejectedAs_answerOf_iff]

end GatedRelay
