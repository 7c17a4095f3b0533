import GatedRelay.Proofs.Stages
import GatedRelay.Web.Handler

/-!
# What an answer tells

A caller sees a status and nothing of its cause. The status says what became of the message: an
accepted request has put one into the outbox, a rejected one has put in none, unless it was
rejected only when its answer was made.
-/

namespace GatedRelay

open GatedRelay.Expr (Program ProgramSet)

/-- Which results go with which outbox before and after a call. An aborted call tells nothing. -/
inductive Settles (o : Outbox) : Attempt Rejection AnswerBody → Outbox → Prop
  | answered (body : AnswerBody) (payload : Bytes) :
    Settles o (.ok body) { o with messages := o.messages ++ [payload] }
  | rejected (e : Rejection) (hstage : e.stage ≠ .response) : Settles o (.error (.failed e)) o
  | unanswered (e : Rejection) (payload : Bytes) (hstage : e.stage = .response)
    (hkind : e.kind = .serviceError) :
    Settles o (.error (.failed e)) { o with messages := o.messages ++ [payload] }
  | aborted (after : Outbox) : Settles o (.error .aborted) after

namespace Expr.ProgramSet

variable {ps : ProgramSet} {worlds : Role → World} {c : RequestContext}

lemma ofExcept_ne_aborted {α : Type} {x : Except Rejection α} :
    ProgramSet.ofExcept x ≠ .error .aborted := by
  cases x <;> simp [ProgramSet.ofExcept, Attempt.fail]

lemma runAt_aborted_iff {p : Program} {stage : Stage} :
    runAt p stage worlds c = .error .aborted ↔
      p.evaluate worlds c.origin c.request = .error .aborted := by
  rw [runAt, Attempt.mapFailure_eq_aborted_iff]

lemma payloadFor_aborted (h : payloadFor ps worlds c = .error .aborted) :
    ∃ p ∈ ps.toList, p.evaluate worlds c.origin c.request = .error .aborted := by
  unfold payloadFor at h
  rw [Attempt.bind_eq_error_iff] at h
  rcases h with h | ⟨decision, -, h⟩
  · exact ⟨ps.authorization, by simp [toList], runAt_aborted_iff.mp h⟩
  · split at h
    · simp only [Attempt.bind_eq_error_iff] at h
      rcases h with h | ⟨v, -, h | ⟨message, -, h⟩⟩
      · exact ⟨ps.extraction, by simp [toList], runAt_aborted_iff.mp h⟩
      · exact absurd h ofExcept_ne_aborted
      · cases h
    · cases h

lemma respond_aborted (h : respond ps worlds c = .error .aborted) :
    ∃ p ∈ ps.toList, p.evaluate worlds c.origin c.request = .error .aborted := by
  unfold respond at h
  split at h
  · cases h
  · next p hp =>
    rw [Attempt.bind_eq_error_iff] at h
    rcases h with h | ⟨v, -, h⟩
    · exact ⟨p, by simp [toList, hp], runAt_aborted_iff.mp h⟩
    · exact absurd h ofExcept_ne_aborted

theorem process_settles (ps : ProgramSet) (worlds : Role → World) (c : RequestContext)
    (o : Outbox) :
    Settles o (ps.process (m := StateM Outbox) worlds Outbox.publish c o).1
      (ps.process (m := StateM Outbox) worlds Outbox.publish c o).2 := by
  rcases hp : payloadFor ps worlds c with (e | _) | payload
  · rw [process_outbox_of_error hp]
    refine .rejected e ?_
    rcases payloadFor_failed_stage hp with hstage | hstage <;> simp [hstage]
  · rw [process_outbox_of_error hp]
    exact .aborted o
  -- The message is made, and from here on only a failing outbox keeps it out.
  · cases ho : o.failing with
    | true =>
      rw [process_outbox_of_failing hp ho]
      exact .rejected _ nofun
    | false =>
      rw [process_outbox_of_working hp ho]
      rcases hr : respond ps worlds c with (e | _) | body
      · obtain ⟨cause, rfl⟩ := respond_failed hr
        exact .unanswered _ payload rfl rfl
      · exact .aborted _
      · exact .answered body payload

theorem process_aborted {o : Outbox}
    (h : (ps.process (m := StateM Outbox) worlds Outbox.publish c o).1 = .error .aborted) :
    ∃ p ∈ ps.toList, p.evaluate worlds c.origin c.request = .error .aborted := by
  rcases hp : payloadFor ps worlds c with e | payload
  · rw [process_outbox_of_error hp] at h
    cases h
    exact payloadFor_aborted hp
  · cases ho : o.failing with
    | true =>
      rw [process_outbox_of_failing hp ho] at h
      cases h
    | false =>
      rw [process_outbox_of_working hp ho] at h
      exact respond_aborted h

end Expr.ProgramSet

namespace HttpAnswer

variable {result : Attempt Rejection AnswerBody} {a : HttpAnswer}

lemma ofResult_eq_some_iff : ofResult result = some a ↔
    (∃ body, result = .ok body ∧ a = ofBody body) ∨
      ∃ e, result = .error (.failed e) ∧ a = ofRejection e := by
  rcases result with (e | _) | body <;> simp [ofResult, eq_comm]

lemma ofResult_eq_none_iff : ofResult result = none ↔ result = .error .aborted := by
  rcases result with (e | _) | body <;> simp [ofResult]

lemma ofBody_status (body : AnswerBody) : (ofBody body).status = 200 := by
  cases body <;> rfl

lemma ofRejection_status_mem (e : Rejection) :
    (ofRejection e).status ∈ [400, 403, 500, 503] := by
  cases he : e.kind <;> simp [ofRejection, bare, Rejection.status, RejectKind.status, he]

lemma ofRejection_status_eq_500_iff (e : Rejection) :
    (ofRejection e).status = 500 ↔ e.kind = .serviceError := by
  cases he : e.kind <;> simp [ofRejection, bare, Rejection.status, RejectKind.status, he]

theorem status_eq_200_iff (h : ofResult result = some a) :
    a.status = 200 ↔ ∃ body, result = .ok body := by
  obtain ⟨body, rfl, rfl⟩ | ⟨e, rfl, rfl⟩ := ofResult_eq_some_iff.mp h
  · simp [ofBody_status]
  · have hmem := ofRejection_status_mem e
    constructor
    · intro hstatus
      simp [hstatus] at hmem
    · rintro ⟨_, ⟨⟩⟩

theorem empty_of_status_ne_200 (h : ofResult result = some a) (hstatus : a.status ≠ 200) :
    a.body = [] ∧ a.contentType = none ∧ a.status ∈ [400, 403, 500, 503] := by
  obtain ⟨body, rfl, rfl⟩ | ⟨e, rfl, rfl⟩ := ofResult_eq_some_iff.mp h
  · exact absurd (ofBody_status body) hstatus
  · exact ⟨rfl, rfl, ofRejection_status_mem e⟩

end HttpAnswer

namespace Settles

variable {o after : Outbox} {result : Attempt Rejection AnswerBody} {a : HttpAnswer}

theorem added_of_status_eq_200 (h : Settles o result after)
    (ha : HttpAnswer.ofResult result = some a) (hstatus : a.status = 200) :
    ∃ payload, after = { o with messages := o.messages ++ [payload] } := by
  obtain ⟨body, rfl⟩ := (HttpAnswer.status_eq_200_iff ha).mp hstatus
  cases h with
  | answered body payload => exact ⟨payload, rfl⟩

/-- A rejection that is no fault of the service comes before the publishing. -/
theorem unchanged_of_status_ne_500 (h : Settles o result after)
    (ha : HttpAnswer.ofResult result = some a) (hok : a.status ≠ 200) (hservice : a.status ≠ 500) :
    after = o := by
  obtain ⟨body, -, rfl⟩ | ⟨e, rfl, rfl⟩ := HttpAnswer.ofResult_eq_some_iff.mp ha
  · exact absurd (HttpAnswer.ofBody_status body) hok
  · cases h with
    | rejected e hstage => rfl
    | unanswered e payload hstage hkind =>
      exact absurd ((HttpAnswer.ofRejection_status_eq_500_iff e).mpr hkind) hservice

theorem rejected_of_status_ne_200 (h : Settles o result after)
    (ha : HttpAnswer.ofResult result = some a) (hok : a.status ≠ 200) :
    ∃ e, result = .error (.failed e) ∧
      if e.stage = .response then
        ∃ payload, after = { o with messages := o.messages ++ [payload] }
      else after = o := by
  obtain ⟨body, -, rfl⟩ | ⟨e, rfl, rfl⟩ := HttpAnswer.ofResult_eq_some_iff.mp ha
  · exact absurd (HttpAnswer.ofBody_status body) hok
  · refine ⟨e, rfl, ?_⟩
    cases h with
    | rejected e hstage => rw [if_neg hstage]
    | unanswered e payload hstage hkind =>
      rw [if_pos hstage]
      exact ⟨payload, rfl⟩

end Settles

namespace Relay

/-- The relay that publishes to an outbox. -/
def toOutbox (ps : ProgramSet) (maxBodyBytes : Nat) : Relay (StateM Outbox) :=
  ⟨ps, Outbox.publish, maxBodyBytes⟩

variable {ps : ProgramSet} {maxBodyBytes : Nat} {occasion : Occasion} {r : Request} {o : Outbox}

lemma process_of_long (h : maxBodyBytes < r.body.length) :
    (toOutbox ps maxBodyBytes).process occasion r o =
      (.error (.failed (.client .request .unreadableBody)), o) := by
  rw [process, toOutbox, if_pos h]
  rfl

lemma process_of_error {e : RequestError} (hlength : r.body.length ≤ maxBodyBytes)
    (h : RequestContext.build r occasion.arrival = .error e) :
    (toOutbox ps maxBodyBytes).process occasion r o =
      (.error (.failed (.client .request (.request e))), o) := by
  rw [process, toOutbox, if_neg (Nat.not_lt.mpr hlength), h]
  rfl

lemma process_of_ok {c : RequestContext} (hlength : r.body.length ≤ maxBodyBytes)
    (h : RequestContext.build r occasion.arrival = .ok c) :
    (toOutbox ps maxBodyBytes).process occasion r o =
      ps.process (m := StateM Outbox) occasion.worlds Outbox.publish c o := by
  rw [process, toOutbox, if_neg (Nat.not_lt.mpr hlength), h]

/-- Whether a request gets as far as the programs or is rejected before them. -/
lemma process_cases (ps : ProgramSet) (maxBodyBytes : Nat) (occasion : Occasion) (r : Request)
    (o : Outbox) :
    (∃ cause, (toOutbox ps maxBodyBytes).process occasion r o =
        (.error (.failed (.client .request cause)), o)) ∨
      r.body.length ≤ maxBodyBytes ∧ ∃ c, RequestContext.build r occasion.arrival = .ok c ∧
        (toOutbox ps maxBodyBytes).process occasion r o =
          ps.process (m := StateM Outbox) occasion.worlds Outbox.publish c o := by
  rcases Nat.lt_or_ge maxBodyBytes r.body.length with hlength | hlength
  · exact .inl ⟨_, process_of_long hlength⟩
  · cases hc : RequestContext.build r occasion.arrival with
    | error e => exact .inl ⟨_, process_of_error hlength hc⟩
    | ok c => exact .inr ⟨hlength, c, rfl, process_of_ok hlength hc⟩

theorem process_settles (ps : ProgramSet) (maxBodyBytes : Nat) (occasion : Occasion) (r : Request)
    (o : Outbox) :
    Settles o ((toOutbox ps maxBodyBytes).process occasion r o).1
      ((toOutbox ps maxBodyBytes).process occasion r o).2 := by
  obtain ⟨cause, h⟩ | ⟨-, c, -, h⟩ := process_cases ps maxBodyBytes occasion r o
  · rw [h]
    exact .rejected _ nofun
  · rw [h]
    exact ps.process_settles occasion.worlds c o

theorem process_answers_iff :
    (∃ body, ((toOutbox ps maxBodyBytes).process occasion r o).1 = .ok body) ↔
      r.body.length ≤ maxBodyBytes ∧ ∃ c body, RequestContext.build r occasion.arrival = .ok c ∧
        (ps.process (m := StateM Outbox) occasion.worlds Outbox.publish c o).1 = .ok body := by
  constructor
  · rintro ⟨body, hbody⟩
    obtain ⟨cause, h⟩ | ⟨hlength, c, hc, h⟩ := process_cases ps maxBodyBytes occasion r o
    · rw [h] at hbody
      cases hbody
    · rw [h] at hbody
      exact ⟨hlength, c, body, hc, hbody⟩
  · rintro ⟨hlength, c, body, hc, hbody⟩
    exact ⟨body, by rw [process_of_ok hlength hc, hbody]⟩

theorem process_aborted
    (h : ((toOutbox ps maxBodyBytes).process occasion r o).1 = .error .aborted) :
    r.body.length ≤ maxBodyBytes ∧ ∃ c, RequestContext.build r occasion.arrival = .ok c ∧
      ∃ p ∈ ps.toList, p.evaluate occasion.worlds c.origin c.request = .error .aborted := by
  obtain ⟨cause, hprocess⟩ | ⟨hlength, c, hc, hprocess⟩ :=
    process_cases ps maxBodyBytes occasion r o
  · rw [hprocess] at h
    cases h
  · rw [hprocess] at h
    exact ⟨hlength, c, hc, ProgramSet.process_aborted h⟩

/-- The status of an answer tells what became of the request, and nothing but the status tells of a
rejection. Only an evaluation that is aborted leaves a request without an answer. -/
theorem handle_tells (ps : ProgramSet) (maxBodyBytes : Nat) (occasion : Occasion) (r : Request)
    (o : Outbox) :
    let result := ((toOutbox ps maxBodyBytes).process occasion r o).1
    let answer := ((toOutbox ps maxBodyBytes).handle occasion r o).1
    let after := ((toOutbox ps maxBodyBytes).handle occasion r o).2
    (answer = none → r.body.length ≤ maxBodyBytes ∧
      ∃ c, RequestContext.build r occasion.arrival = .ok c ∧
        ∃ p ∈ ps.toList, p.evaluate occasion.worlds c.origin c.request = .error .aborted) ∧
    ∀ a, answer = some a →
      (a.status = 200 ↔ r.body.length ≤ maxBodyBytes ∧
        ∃ c body, RequestContext.build r occasion.arrival = .ok c ∧
          (ps.process (m := StateM Outbox) occasion.worlds Outbox.publish c o).1 = .ok body) ∧
      (a.status = 200 → ∃ payload, after = { o with messages := o.messages ++ [payload] }) ∧
      (maxBodyBytes < r.body.length → a = ⟨400, none, []⟩ ∧ after = o) ∧
      (a.status ≠ 200 →
        a.body = [] ∧ a.contentType = none ∧ a.status ∈ [400, 403, 500, 503]) ∧
      (a.status = 400 ∨ a.status = 403 ∨ a.status = 503 → after = o) ∧
      (a.status = 500 → ∃ e, result = .error (.failed e) ∧
        if e.stage = .response then
          ∃ payload, after = { o with messages := o.messages ++ [payload] }
        else after = o) := by
  intro result answer after
  have hsettles : Settles o result after := process_settles ps maxBodyBytes occasion r o
  have hanswer : answer = HttpAnswer.ofResult result := rfl
  refine ⟨fun hnone => ?_, fun a ha => ⟨?_, ?_, ?_, ?_, ?_, ?_⟩⟩
  · exact process_aborted (HttpAnswer.ofResult_eq_none_iff.mp hnone)
  · rw [HttpAnswer.status_eq_200_iff ha]
    exact process_answers_iff
  · exact hsettles.added_of_status_eq_200 ha
  · intro hlong
    have hafter : after = o := congrArg Prod.snd (process_of_long hlong)
    have hresult : result = .error (.failed (.client .request .unreadableBody)) :=
      congrArg Prod.fst (process_of_long hlong)
    rw [hanswer, hresult] at ha
    exact ⟨(Option.some.inj ha).symm, hafter⟩
  · exact HttpAnswer.empty_of_status_ne_200 ha
  · intro hstatus
    exact hsettles.unchanged_of_status_ne_500 ha (by omega) (by omega)
  · intro hstatus
    exact hsettles.rejected_of_status_ne_200 ha (by omega)

end Relay

end GatedRelay
