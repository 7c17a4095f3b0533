import GatedRelay.Proofs.Stages
import GatedRelay.Relay.Traffic
import Mathlib.Data.List.Basic

/-!
# Interleaved calls on one outbox

However the steps of the calls are mixed, the outbox gets the message of each request that is let
in and meets an outbox that works, once, and nothing else.
-/

namespace GatedRelay

open GatedRelay.Expr (ProgramSet Role World)
open GatedRelay.Expr.ProgramSet (Accepts payloadFor respond process process_of_error process_of_ok
  payloadFor_eq_ok_iff payloadFor_failed_stage respond_failed)

namespace Strand

variable {α β : Type}

lemma alone_bind (x : Strand α) (f : α → Strand β) (o : Outbox) :
    (x >>= f).alone o = (f (x.alone o).1).alone (x.alone o).2 := by
  induction x generalizing o with
  | done a => rfl
  | look next ih => exact ih o.failing o
  | put payload next ih => exact ih _

lemma alone_publish (payload : Bytes) (o : Outbox) :
    (publish payload).alone o = o.publish payload := by
  cases h : o.failing <;> simp [publish, alone, Outbox.publish, h]

end Strand

/-- The steps of a call, taken without a break, are what the call does by itself. -/
theorem alone_process (ps : ProgramSet) (worlds : Role → World) (c : RequestContext) (o : Outbox) :
    (process ps worlds Strand.publish c).alone o =
      process (m := StateM Outbox) ps worlds Outbox.publish c o := by
  cases h : payloadFor ps worlds c with
  | error e =>
    rw [process_of_error _ h, process_of_error _ h]
    rfl
  | ok payload =>
    rw [process_of_ok _ h, process_of_ok _ h, Strand.alone_bind, Strand.alone_publish]
    rfl

/-- What a call with a payload does once it knows whether the outbox fails. -/
def afterLook (ps : ProgramSet) (a : Arrival) (payload : Bytes) (failing : Bool) :
    Strand (Attempt Rejection AnswerBody) :=
  if failing then .done (.fail ⟨.unavailable, .publish, .unpublished .disabled⟩)
  else .put payload (.done (respond ps a.worlds a.context))

lemma process_eq_look {ps : ProgramSet} {a : Arrival} {payload : Bytes}
    (h : payloadFor ps a.worlds a.context = .ok payload) :
    process ps a.worlds Strand.publish a.context = .look (afterLook ps a payload) := by
  rw [process_of_ok _ h]
  change Strand.look _ = _
  congr 1
  funext failing
  cases failing <;> rfl

/-- How a call stands that has done the given deeds. -/
inductive Stands (ps : ProgramSet) (a : Arrival) (i : Nat) :
    Strand (Attempt Rejection AnswerBody) → List Deed → Prop
  | refused {e : Fault Rejection} : payloadFor ps a.worlds a.context = .error e →
      Stands ps a i (.done (.error e)) []
  | waiting {payload : Bytes} : Accepts ps a.worlds a.context payload →
      Stands ps a i (.look (afterLook ps a payload)) []
  | failed {payload : Bytes} : Accepts ps a.worlds a.context payload →
      Stands ps a i (.done (.fail ⟨.unavailable, .publish, .unpublished .disabled⟩)) [.met i true]
  | admitted {payload : Bytes} : Accepts ps a.worlds a.context payload →
      Stands ps a i (.put payload (.done (respond ps a.worlds a.context))) [.met i false]
  | added {payload : Bytes} : Accepts ps a.worlds a.context payload →
      Stands ps a i (.done (respond ps a.worlds a.context)) [.met i false, .added i payload]

lemma Stands.accepts {ps : ProgramSet} {a : Arrival} {i : Nat} {s : Strand _} {ds : List Deed}
    (h : Stands ps a i s ds) {payload : Bytes} (hp : payload ∈ ds.filterMap Deed.payload?) :
    Accepts ps a.worlds a.context payload := by
  cases h with
  | @added payload' ha =>
    have he : payload' = payload := by simpa [Deed.payload?] using hp
    exact he ▸ ha
  | refused _ | waiting _ | failed _ | admitted _ => simp [Deed.payload?] at hp

section Over

variable {ps : ProgramSet} {a : Arrival} {i : Nat} {result : Attempt Rejection AnswerBody}
  {ds : List Deed}

/-- A call that is over has published the message of its request, unless the request is not let in
or met a failing outbox. -/
lemma Stands.added_eq_singleton_iff (h : Stands ps a i (.done result) ds) (payload : Bytes) :
    ds.filterMap Deed.payload? = [payload] ↔
      Accepts ps a.worlds a.context payload ∧ .met i true ∉ ds := by
  cases h with
  | @added payload' ha =>
    constructor
    · intro he
      obtain rfl : payload' = payload := List.singleton_inj.mp he
      exact ⟨ha, by simp⟩
    · rintro ⟨hp, -⟩
      rw [hp.unique ha]
      rfl
  | failed ha =>
    constructor
    · intro hp
      cases hp
    · rintro ⟨-, hmet⟩
      exact (hmet (List.mem_singleton_self _)).elim
  | refused he =>
    constructor
    · intro hp
      cases hp
    · rintro ⟨hp, -⟩
      rw [(payloadFor_eq_ok_iff ..).mpr hp] at he
      cases he

lemma Stands.added_eq_nil_iff (h : Stands ps a i (.done result) ds) :
    ds.filterMap Deed.payload? = [] ↔
      ¬∃ payload, Accepts ps a.worlds a.context payload ∧ .met i true ∉ ds := by
  constructor
  · rintro hnil ⟨payload, hp⟩
    rw [(h.added_eq_singleton_iff payload).mpr hp] at hnil
    cases hnil
  · intro hnone
    cases h with
    | added ha => exact (hnone ⟨_, ha, by simp⟩).elim
    | failed _ => rfl
    | refused _ => rfl

/-- The stage at which a request is rejected tells whether its message was published before. -/
lemma Stands.stage (h : Stands ps a i (.done result) ds) {r : Rejection} (hr : result = .fail r) :
    ((r.stage = .authorization ∨ r.stage = .extraction ∨ r.stage = .publish) ∧
      ds.filterMap Deed.payload? = []) ∨
    (r.stage = .response ∧ ∃ payload, ds.filterMap Deed.payload? = [payload]) := by
  cases h with
  | added ha =>
    obtain ⟨cause, rfl⟩ := respond_failed hr
    exact .inr ⟨rfl, _, rfl⟩
  | failed ha =>
    cases hr
    exact .inl ⟨.inr (.inr rfl), rfl⟩
  | refused he =>
    cases hr
    rcases payloadFor_failed_stage he with hs | hs
    · exact .inl ⟨.inl hs, rfl⟩
    · exact .inl ⟨.inr (.inl hs), rfl⟩

lemma Stands.added_of_ok (h : Stands ps a i (.done result) ds) {body : AnswerBody}
    (hbody : result = .ok body) : ∃ payload, ds.filterMap Deed.payload? = [payload] := by
  cases h with
  | added ha => exact ⟨_, rfl⟩
  | failed ha => cases hbody
  | refused he => cases hbody

end Over

/-- What holds of the traffic of some arrivals at any time. -/
structure Orderly (ps : ProgramSet) (o : Outbox) (arrivals : List Arrival) (t : Traffic) :
    Prop where
  messages : t.outbox.messages = o.messages ++ t.history.filterMap Deed.payload?
  numbers : ∀ d ∈ t.history, d.call < arrivals.length
  length : t.calls.length = arrivals.length
  stands : ∀ i a, arrivals[i]? = some a →
    ∃ s, t.calls[i]? = some s ∧ Stands ps a i s (t.deedsOf i)

namespace Traffic

variable {ps : ProgramSet} {o : Outbox} {arrivals : List Arrival} {t : Traffic}

lemma orderly_start (ps : ProgramSet) (o : Outbox) (arrivals : List Arrival) :
    Orderly ps o arrivals (start ps o arrivals) where
  messages := (List.append_nil _).symm
  numbers := by simp [start]
  length := by simp [start]
  stands i a ha := by
    refine ⟨process ps a.worlds Strand.publish a.context, by simp [start, ha], ?_⟩
    cases h : payloadFor ps a.worlds a.context with
    | error e =>
      rw [process_of_error _ h]
      exact .refused h
    | ok payload =>
      rw [process_eq_look h]
      exact .waiting ((payloadFor_eq_ok_iff ..).mp h)

/-- A step of one call leaves the others as they were. -/
lemma orderly_set (h : Orderly ps o arrivals t) {i : Nat} {a : Arrival} {s : Strand _} {d : Deed}
    {o' : Outbox} (ha : arrivals[i]? = some a) (hd : d.call = i)
    (ho : o'.messages = t.outbox.messages ++ d.payload?.toList)
    (hs : Stands ps a i s (t.deedsOf i ++ [d])) :
    Orderly ps o arrivals ⟨o', t.calls.set i s, t.history ++ [d]⟩ where
  messages := by
    rw [ho, h.messages, List.filterMap_append, List.append_assoc]
    cases hp : d.payload? <;> simp [hp]
  numbers := by
    intro e he
    rcases List.mem_append.mp he with he | he
    · exact h.numbers e he
    · rw [List.mem_singleton.mp he, hd]
      exact (List.getElem?_eq_some_iff.mp ha).1
  length := by rw [List.length_set, h.length]
  stands j b hb := by
    by_cases hij : i = j
    · subst hij
      obtain rfl : a = b := Option.some.inj (ha.symm.trans hb)
      have hi : i < t.calls.length := h.length ▸ (List.getElem?_eq_some_iff.mp ha).1
      refine ⟨s, by simp [hi], ?_⟩
      simpa [deedsOf, hd] using hs
    · obtain ⟨s', hs', hstands⟩ := h.stands j b hb
      refine ⟨s', by simpa [hij] using hs', ?_⟩
      have hne : (d.call == j) = false := by simp [hd, hij]
      simpa [deedsOf, hne] using hstands

lemma orderly_advance (h : Orderly ps o arrivals t) (i : Nat) :
    Orderly ps o arrivals (t.advance i) := by
  by_cases hi : i < arrivals.length
  · obtain ⟨a, ha⟩ : ∃ a, arrivals[i]? = some a := ⟨arrivals[i], List.getElem?_eq_getElem hi⟩
    obtain ⟨s, hs, hstands⟩ := h.stands i a ha
    unfold advance
    rw [hs]
    generalize hds : t.deedsOf i = ds at hstands
    -- Three ways to stand are final; from the other two the step goes on to another one.
    cases hstands with
    | refused _ => exact h
    | failed _ => exact h
    | added _ => exact h
    | waiting hp =>
      apply orderly_set h ha rfl (by simp [Deed.payload?])
      rw [hds]
      cases t.outbox.failing with
      | true => exact .failed hp
      | false => exact .admitted hp
    | admitted hp =>
      apply orderly_set h ha rfl rfl
      rw [hds]
      exact .added hp
  · have hs : t.calls[i]? = none := by
      rw [List.getElem?_eq_none_iff, h.length]
      omega
    unfold advance
    rw [hs]
    exact h

lemma orderly_take (h : Orderly ps o arrivals t) (turn : Turn) :
    Orderly ps o arrivals (t.take turn) := by
  cases turn with
  | call i => exact orderly_advance h i
  | setFailing failing => exact ⟨h.messages, h.numbers, h.length, h.stands⟩

theorem orderly_run (h : Orderly ps o arrivals t) (turns : List Turn) :
    Orderly ps o arrivals (t.run turns) := by
  induction turns generalizing t with
  | nil => exact h
  | cons turn rest ih => exact ih (orderly_take h turn)

lemma done_take {i : Nat} {r : Attempt Rejection AnswerBody} (h : t.calls[i]? = some (.done r))
    (turn : Turn) : (t.take turn).calls[i]? = some (.done r) := by
  cases turn with
  | setFailing failing => exact h
  | call j =>
    by_cases hij : j = i
    · subst hij
      simp [take, advance, h]
    · unfold take advance
      dsimp only
      split
      · rw [List.getElem?_set_ne hij, h]
      · rw [List.getElem?_set_ne hij, h]
      · exact h

lemma length_deedsOf_take (turn : Turn) (i : Nat) :
    (t.deedsOf i).length ≤ ((t.take turn).deedsOf i).length := by
  cases turn with
  | setFailing failing => exact Nat.le_refl _
  | call j =>
    unfold take advance
    dsimp only
    split <;> simp [deedsOf]

lemma length_deedsOf_advance {i : Nat} {s : Strand _} (hs : t.calls[i]? = some s)
    (hd : ∀ r, s ≠ .done r) :
    ((t.advance i).deedsOf i).length = (t.deedsOf i).length + 1 := by
  unfold advance
  rw [hs]
  cases s with
  | done r => exact (hd r rfl).elim
  | look next => simp [deedsOf, Deed.call]
  | put payload next => simp [deedsOf, Deed.call]

/-- A call has two steps at most. -/
lemma done_of_run (h : Orderly ps o arrivals t) {i : Nat} {a : Arrival}
    (ha : arrivals[i]? = some a) (turns : List Turn)
    (ht : (∃ r, t.calls[i]? = some (.done r)) ∨
      2 ≤ (t.deedsOf i).length + turns.count (.call i)) :
    ∃ r, (t.run turns).calls[i]? = some (.done r) := by
  induction turns generalizing t with
  | nil =>
    rcases ht with ht | ht
    · exact ht
    · obtain ⟨s, hs, hstands⟩ := h.stands i a ha
      generalize hds : t.deedsOf i = ds at hstands ht
      cases hstands with
      | added hp => exact ⟨_, hs⟩
      | refused _ | waiting _ | failed _ | admitted _ => simp at ht
  | cons turn rest ih =>
    refine ih (orderly_take h turn) ?_
    rcases ht with ⟨r, hr⟩ | ht
    · exact .inl ⟨r, done_take hr turn⟩
    · by_cases hturn : turn = .call i
      · subst hturn
        obtain ⟨s, hs, -⟩ := h.stands i a ha
        cases s with
        | done r => exact .inl ⟨r, done_take hs _⟩
        | look next | put payload next =>
          right
          have hlen := length_deedsOf_advance hs (by simp)
          rw [List.count_cons_self] at ht
          rw [take, hlen]
          omega
      · right
        have hlen := length_deedsOf_take (t := t) turn i
        rw [List.count_cons_of_ne hturn] at ht
        omega

lemma metFailing_iff (i : Nat) : t.metFailing i = true ↔ .met i true ∈ t.deedsOf i := by
  simp [metFailing, deedsOf, Deed.call]

/-- The outbox gets the messages in the order in which calls added them. A call that is over has
added the message of its request if the request is let in and the outbox did not fail, and nothing
otherwise; its result tells which of both. -/
theorem run_records_accepted (ps : ProgramSet) (o : Outbox) (arrivals : List Arrival)
    (turns : List Turn) :
    let t := (start ps o arrivals).run turns
    t.outbox.messages = o.messages ++ t.history.filterMap Deed.payload? ∧
    (∀ d ∈ t.history, d.call < arrivals.length) ∧
    ∀ i a, arrivals[i]? = some a →
      (2 ≤ turns.count (.call i) → ∃ result, t.calls[i]? = some (.done result)) ∧
      (∀ payload ∈ t.addedBy i, Accepts ps a.worlds a.context payload) ∧
      ∀ result, t.calls[i]? = some (.done result) →
        (∀ payload, t.addedBy i = [payload] ↔
          Accepts ps a.worlds a.context payload ∧ t.metFailing i = false) ∧
        (t.addedBy i = [] ↔
          ¬∃ payload, Accepts ps a.worlds a.context payload ∧ t.metFailing i = false) ∧
        (∀ r, result = .fail r → r.stage = .authorization ∨ r.stage = .extraction ∨
          r.stage = .publish ∨ r.stage = .response) ∧
        (∀ r, result = .fail r →
          r.stage = .authorization ∨ r.stage = .extraction ∨ r.stage = .publish →
          t.addedBy i = []) ∧
        ((∃ body, result = .ok body) ∨ (∃ r, result = .fail r ∧ r.stage = .response) →
          ∃ payload, t.addedBy i = [payload]) := by
  intro t
  have h : Orderly ps o arrivals t := orderly_run (orderly_start ps o arrivals) turns
  refine ⟨h.messages, h.numbers, fun i a ha => ?_⟩
  obtain ⟨s, hs, hstands⟩ := h.stands i a ha
  refine ⟨fun hturns => ?_, fun payload hp => hstands.accepts hp, fun result hresult => ?_⟩
  · exact done_of_run (orderly_start ps o arrivals) ha turns (.inr (by omega))
  · obtain rfl : s = .done result := Option.some.inj (hs.symm.trans hresult)
    have hmet : t.metFailing i = false ↔ .met i true ∉ t.deedsOf i := by
      rw [← Bool.not_eq_true, metFailing_iff]
    simp only [hmet]
    refine ⟨hstands.added_eq_singleton_iff, hstands.added_eq_nil_iff, fun r hr => ?_,
      fun r hr hearly => ?_, ?_⟩
    · rcases hstands.stage hr with ⟨hs | hs | hs, -⟩ | ⟨hs, -⟩ <;> simp [hs]
    · rcases hstands.stage hr with ⟨-, hnil⟩ | ⟨hs, -⟩
      · exact hnil
      · simp [hs] at hearly
    · rintro (⟨body, hbody⟩ | ⟨r, hr, hs⟩)
      · exact hstands.added_of_ok hbody
      · rcases hstands.stage hr with ⟨hearly, -⟩ | ⟨-, hadded⟩
        · simp [hs] at hearly
        · exact hadded

/-- Lets every request in and publishes its path. -/
def paths : ProgramSet where
  authorization := ⟨.authorization, "true", .literal (.bool true), .bool⟩
  extraction := ⟨.extraction, "[request.path]", .list [.select (.ident "request") "path"], .list⟩
  response := none

def arrivalAt (path : String) : Arrival :=
  ⟨⟨"127.0.0.1", "", "GET", path, "http", "", none, none, [], 0⟩, (0 : Int)⟩

-- Both calls have met the outbox before it fails, so both publish, the second one first.
example :
    ((start paths .empty [arrivalAt "/a", arrivalAt "/b"]).run
      [.call 0, .call 1, .setFailing true, .call 1, .call 0]).outbox.messages =
    [Utf8.ofString "[\"/b\"]", Utf8.ofString "[\"/a\"]"] := by decide +kernel

end Traffic

end GatedRelay
