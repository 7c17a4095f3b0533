import GatedRelay.Proofs.Attempts
import GatedRelay.Relay.Pipeline

/-!
# The stages of a request

What has to hold for a message to be made, and at which stage a request is rejected otherwise.
-/

namespace GatedRelay

open GatedRelay.Expr (Value)

lemma isTrue_iff (v : Value) : Expr.isTrue v = true ↔ v = .bool true := by
  cases v <;> simp [Expr.isTrue]

lemma messageOf_error_stage {v : Value} {r : Rejection} (h : messageOf v = .error r) :
    r.stage = .extraction := by
  unfold messageOf at h
  split at h
  · split at h <;> cases h <;> rfl
  · split at h <;> cases h
    rfl
  · split at h <;> cases h
    rfl
  · cases h
    rfl

lemma answerOf_error {v : Value} {r : Rejection} (h : answerOf v = .error r) :
    ∃ cause, r = .service .response cause := by
  unfold answerOf at h
  split at h
  · cases h
    exact ⟨_, rfl⟩
  · cases h
  · split at h <;> cases h
    exact ⟨_, rfl⟩
  · split at h <;> cases h
    exact ⟨_, rfl⟩
  · cases h

namespace Expr.ProgramSet

/-- The payload is the message of a request that is let in. -/
def Accepts (ps : ProgramSet) (worlds : Role → World) (c : RequestContext) (payload : Bytes) :
    Prop :=
  ps.authorization.evaluate worlds c.origin c.request = .ok (.bool true) ∧
    ∃ v message, ps.extraction.evaluate worlds c.origin c.request = .ok v ∧
      messageOf v = .ok message ∧ payload = message.bytes

lemma ofExcept_eq_ok_iff {α : Type} {x : Except Rejection α} {a : α} :
    ProgramSet.ofExcept x = .ok a ↔ x = .ok a := by
  cases x <;> simp [ProgramSet.ofExcept, Attempt.fail]

lemma ofExcept_eq_failed_iff {α : Type} {x : Except Rejection α} {r : Rejection} :
    ProgramSet.ofExcept x = .error (.failed r) ↔ x = .error r := by
  cases x <;> simp [ProgramSet.ofExcept, Attempt.fail]

lemma runAt_failed {p : Program} {stage : Stage} {worlds : Role → World} {c : RequestContext}
    {r : Rejection} (h : runAt p stage worlds c = .error (.failed r)) :
    ∃ cause, r = .service stage cause := by
  rw [runAt, Attempt.mapFailure_eq_failed_iff] at h
  obtain ⟨e, -, rfl⟩ := h
  exact ⟨_, rfl⟩

theorem payloadFor_eq_ok_iff (ps : ProgramSet) (worlds : Role → World) (c : RequestContext)
    (payload : Bytes) : payloadFor ps worlds c = .ok payload ↔ Accepts ps worlds c payload := by
  unfold payloadFor Accepts runAt
  rw [Attempt.bind_eq_ok_iff]
  constructor
  · rintro ⟨decision, hd, h⟩
    rw [Attempt.mapFailure_eq_ok_iff] at hd
    split at h
    · next ht =>
      rw [isTrue_iff] at ht
      subst ht
      simp only [Attempt.bind_eq_ok_iff, Attempt.mapFailure_eq_ok_iff, ofExcept_eq_ok_iff] at h
      obtain ⟨v, hv, message, hm, hp⟩ := h
      exact ⟨hd, v, message, hv, hm, (Except.ok.inj hp).symm⟩
    · simp [Attempt.fail] at h
  · rintro ⟨hd, v, message, hv, hm, rfl⟩
    refine ⟨.bool true, Attempt.mapFailure_eq_ok_iff.mpr hd, ?_⟩
    simp only [isTrue, if_true, Attempt.bind_eq_ok_iff, Attempt.mapFailure_eq_ok_iff,
      ofExcept_eq_ok_iff]
    exact ⟨v, hv, message, hm, rfl⟩

lemma Accepts.unique {ps : ProgramSet} {worlds : Role → World} {c : RequestContext} {p q : Bytes}
    (hp : Accepts ps worlds c p) (hq : Accepts ps worlds c q) : p = q := by
  rw [← payloadFor_eq_ok_iff] at hp hq
  exact Except.ok.inj (hp.symm.trans hq)

theorem payloadFor_failed_stage {ps : ProgramSet} {worlds : Role → World} {c : RequestContext}
    {r : Rejection} (h : payloadFor ps worlds c = .error (.failed r)) :
    r.stage = .authorization ∨ r.stage = .extraction := by
  unfold payloadFor at h
  rw [Attempt.bind_eq_error_iff] at h
  rcases h with h | ⟨decision, -, h⟩
  · obtain ⟨cause, rfl⟩ := runAt_failed h
    exact .inl rfl
  · split at h
    · simp only [Attempt.bind_eq_error_iff] at h
      rcases h with h | ⟨v, -, h | ⟨message, -, h⟩⟩
      · obtain ⟨cause, rfl⟩ := runAt_failed h
        exact .inr rfl
      · exact .inr (messageOf_error_stage (ofExcept_eq_failed_iff.mp h))
      · cases h
    · cases h
      exact .inl rfl

theorem respond_failed {ps : ProgramSet} {worlds : Role → World} {c : RequestContext}
    {r : Rejection} (h : respond ps worlds c = .error (.failed r)) : ∃ cause, r = .service .response cause := by
  unfold respond at h
  split at h
  · cases h
  · rw [Attempt.bind_eq_error_iff] at h
    rcases h with h | ⟨v, -, h⟩
    · exact runAt_failed h
    · exact answerOf_error (ofExcept_eq_failed_iff.mp h)

/-- The result of a call by what became of its payload. -/
def resultOf (ps : ProgramSet) (worlds : Role → World) (c : RequestContext) :
    Attempt PublishError Unit → Attempt Rejection AnswerBody
  | .error (.failed e) => .fail ⟨.unavailable, .publish, .unpublished e⟩
  | .error .aborted => .abort
  | .ok () => respond ps worlds c

section Process

variable {m : Type → Type} [Monad m] {ps : ProgramSet} {worlds : Role → World} {c : RequestContext}
  (publish : Bytes → m (Attempt PublishError Unit))

lemma process_of_error {e : Fault Rejection} (h : payloadFor ps worlds c = .error e) :
    process ps worlds publish c = pure (.error e) := by
  rw [process, h]

lemma process_of_ok {payload : Bytes} (h : payloadFor ps worlds c = .ok payload) :
    process ps worlds publish c =
      publish payload >>= fun published => pure (resultOf ps worlds c published) := by
  rw [process, h]
  dsimp only
  congr 1
  funext published
  rcases published with (e | _) | _ <;> rfl

end Process

section Outbox

variable {ps : ProgramSet} {worlds : Role → World} {c : RequestContext} {payload : Bytes}

lemma process_outbox_of_ok (h : payloadFor ps worlds c = .ok payload) (o : Outbox) :
    process (m := StateM Outbox) ps worlds Outbox.publish c o =
      (resultOf ps worlds c (Outbox.publish payload o).1, (Outbox.publish payload o).2) := by
  rw [process_of_ok _ h]
  rfl

lemma process_outbox_of_error {e : Fault Rejection} (h : payloadFor ps worlds c = .error e)
    (o : Outbox) :
    process (m := StateM Outbox) ps worlds Outbox.publish c o = (.error e, o) := by
  rw [process_of_error _ h]
  rfl

lemma process_outbox_of_failing (h : payloadFor ps worlds c = .ok payload) {o : Outbox}
    (ho : o.failing = true) :
    process (m := StateM Outbox) ps worlds Outbox.publish c o =
      (.fail ⟨.unavailable, .publish, .unpublished .disabled⟩, o) := by
  have hpublish : Outbox.publish payload o = (.fail .disabled, o) := by
    rw [Outbox.publish, if_pos ho]
  rw [process_outbox_of_ok h, hpublish]
  rfl

/-- A working outbox keeps the message, whatever the answer is then. -/
lemma process_outbox_of_working (h : payloadFor ps worlds c = .ok payload) {o : Outbox}
    (ho : o.failing = false) :
    process (m := StateM Outbox) ps worlds Outbox.publish c o =
      (respond ps worlds c, { o with messages := o.messages ++ [payload] }) := by
  have hpublish : Outbox.publish payload o =
      (.ok (), { o with messages := o.messages ++ [payload] }) := by
    rw [Outbox.publish, ho]
    rfl
  rw [process_outbox_of_ok h, hpublish]
  rfl

end Outbox

end Expr.ProgramSet

end GatedRelay
