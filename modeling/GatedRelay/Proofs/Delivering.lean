import GatedRelay.Proofs.Attempts
import GatedRelay.Proofs.Base64Text
import GatedRelay.Proofs.JsonText
import GatedRelay.Proofs.TextParts
import GatedRelay.Publish.Deliveries

/-!
# Payloads on their way to a topic

With credentials that need no fetch, each payload makes one call at most. The call and its reply
settle the result, so that no payload has to do with the fate of another one.
-/

namespace GatedRelay

/-! ### Calls -/

/-- A body with one message, which holds a payload. -/
def Carries (body payload : Bytes) : Prop :=
  ∃ data, Json.parseBytes? body =
      some (.object [("messages", .array [.object [("data", .string data)]])]) ∧
    Base64.decodePadded? .standard data.toList = some payload

/-- The token of credentials that need no fetch. -/
def Credentials.ownToken? : Credentials → Option (Option String)
  | .anonymous => some none
  | .fixed t => some (some t)
  | .metadata _ => none

namespace Credentials

variable {c : Credentials} {t : Option String} {call authorized : Call}

lemma ownToken?_isSome (hc : ∀ url, c ≠ .metadata url) : ∃ t, c.ownToken? = some t := by
  cases c with
  | anonymous => exact ⟨none, rfl⟩
  | fixed t => exact ⟨some t, rfl⟩
  | metadata url => exact absurd rfl (hc url)

lemma token_of_ownToken? (h : c.ownToken? = some t) (cache : Option CachedToken) :
    c.token cache = .done (.ok t, cache) := by
  cases c with
  | anonymous => cases h; rfl
  | fixed t => cases h; rfl
  | metadata url => cases h

lemma eq_fixed_iff (h : c.ownToken? = some t) {text : String} :
    c = .fixed text ↔ t = some text := by
  cases c with
  | anonymous =>
    cases h
    simp
  | fixed own =>
    cases h
    simp
  | metadata url => cases h

lemma authorize?_eq_some (h : authorize? t call = some authorized) :
    authorized.method = call.method ∧ authorized.url = call.url ∧ authorized.body = call.body := by
  cases t with
  | none =>
    cases h
    exact ⟨rfl, rfl, rfl⟩
  | some t =>
    rw [authorize?] at h
    split_ifs at h
    cases h
    exact ⟨rfl, rfl, rfl⟩

lemma authorize?_eq_none_iff :
    authorize? t call = none ↔ ∃ text, t = some text ∧ isHeaderText text = false := by
  cases t with
  | none => simp [authorize?]
  | some t => simp [authorize?]

end Credentials

namespace PubSub

variable {p : PubSub}

lemma carries_call (p : PubSub) (payload : Bytes) : Carries (p.call payload).body payload := by
  refine ⟨String.ofList (Base64.encode .standard payload), ?_, ?_⟩
  · have hordered : (bodyOf payload).Ordered := by
      refine .object (List.pairwise_singleton _ _) ?_
      rw [List.forall_mem_singleton]
      refine .array ?_
      rw [List.forall_mem_singleton]
      refine .object (List.pairwise_singleton _ _) ?_
      rw [List.forall_mem_singleton]
      exact .string _
    have hdepth : (bodyOf payload).depth = 3 := rfl
    exact Json.parseBytes?_bytes hordered rfl (by rw [hdepth]; decide)
  · rw [String.toList_ofList]
    exact Base64.decodePadded?_encode payload

/-- An answer lists the published messages as an array of texts, or is a record without a list. -/
theorem isAcknowledgement_iff {body : Bytes} :
    isAcknowledgement body = true ↔
      Json.Record.read? ["messageIds"] body = some [none] ∨
        ∃ raw ids, Json.Record.read? ["messageIds"] body = some [some raw] ∧
          Json.parseBytes? raw = some (.array ids) ∧ ∀ id ∈ ids, ∃ text, id = .string text := by
  constructor
  · intro h
    rw [isAcknowledgement] at h
    split at h
    · next hread => exact .inl hread
    · next raw hread =>
      split at h
      · next ids hids =>
        refine .inr ⟨raw, ids, hread, hids, fun id hid => ?_⟩
        have htext := List.all_eq_true.mp h id hid
        cases id with
        | string text => exact ⟨text, rfl⟩
        | _ => cases htext
      · cases h
    · cases h
  · rintro (hread | ⟨raw, ids, hread, hids, htexts⟩)
    · rw [isAcknowledgement, hread]
    · rw [isAcknowledgement, hread]
      dsimp only
      rw [hids]
      refine List.all_eq_true.mpr fun id hid => ?_
      obtain ⟨text, rfl⟩ := htexts id hid
      rfl

/-- What makes a reply an acknowledgement. -/
lemma outcome_eq_ok_iff {r : Reply} :
    p.outcome r = .ok () ↔ ∃ status body, r = .answer status body ∧ 200 ≤ status ∧ status < 300 ∧
      isAcknowledgement body = true := by
  cases r with
  | unreachable => simp [outcome, Attempt.fail]
  | answer status body =>
    constructor
    · intro h
      rw [outcome] at h
      split_ifs at h with hfailure hack
      · cases h
      · have hsuccess : Status.isSuccess status = true := by simpa using hfailure
        obtain ⟨hlow, hhigh⟩ := Status.isSuccess_iff.mp hsuccess
        exact ⟨status, body, rfl, hlow, hhigh, hack⟩
      · cases h
    · rintro ⟨_, _, hanswer, hlow, hhigh, hack⟩
      cases hanswer
      rw [outcome, Status.isSuccess_iff.mpr ⟨hlow, hhigh⟩, if_neg (by decide), if_pos hack]

lemma outcome_eq_ok_or_fail (p : PubSub) (r : Reply) :
    p.outcome r = .ok () ∨ ∃ e, p.outcome r = .fail e := by
  cases r with
  | unreachable => exact .inr ⟨_, rfl⟩
  | answer status body =>
    rw [outcome]
    split_ifs
    · exact .inr ⟨_, rfl⟩
    · exact .inl rfl
    · exact .inr ⟨_, rfl⟩

/-! ### Deliveries -/

/-- The delivery of a payload, by the token to use and the reply that its call gets. -/
def deliveryWith (p : PubSub) (t : Option String) (payload : Bytes) (reply : Reply) : Delivery :=
  match Credentials.authorize? t (p.call payload) with
  | some c => ⟨payload, [(c, reply)], p.outcome reply⟩
  | none => ⟨payload, [], .fail .unreachable⟩

section Delivering

variable {t : Option String} {c : Call} {payload : Bytes}

lemma deliver_of_authorized (ht : p.credentials.ownToken? = some t)
    (hc : Credentials.authorize? t (p.call payload) = some c) (now : Nat)
    (cache : Option CachedToken) (replies : List Reply) :
    p.deliver now payload cache replies =
      (p.deliveryWith t payload (replies.headD .unreachable), cache, replies.tail) := by
  have hpublish : p.publish payload cache = .call c fun r => .done (p.outcome r, cache) := by
    rw [publish, Credentials.token_of_ownToken? ht]
    dsimp only [bind, Exchange.bind]
    rw [hc]
  rw [deliver, hpublish, deliveryWith, hc]
  rfl

lemma deliver_of_unauthorized (ht : p.credentials.ownToken? = some t)
    (hc : Credentials.authorize? t (p.call payload) = none) (now : Nat)
    (cache : Option CachedToken) (replies : List Reply) :
    p.deliver now payload cache replies =
      (⟨payload, [], .fail .unreachable⟩, cache, replies) := by
  have hpublish : p.publish payload cache = .done (.fail .unreachable, cache) := by
    rw [publish, Credentials.token_of_ownToken? ht]
    dsimp only [bind, Exchange.bind]
    rw [hc]
    rfl
  rw [deliver, hpublish]
  rfl

lemma authorize?_call_eq_none_iff (payload other : Bytes) :
    Credentials.authorize? t (p.call payload) = none ↔
      Credentials.authorize? t (p.call other) = none := by
  rw [Credentials.authorize?_eq_none_iff, Credentials.authorize?_eq_none_iff]

lemma length_deliverAll (now : Nat) (payloads : List Bytes) (cache : Option CachedToken)
    (replies : List Reply) :
    (p.deliverAll now payloads cache replies).length = payloads.length := by
  induction payloads generalizing cache replies with
  | nil => rfl
  | cons payload rest ih => rw [deliverAll, List.length_cons, List.length_cons, ih]

/-- Each payload has the reply of its place in the order, whatever came before. -/
theorem getElem?_deliverAll (ht : p.credentials.ownToken? = some t) (now : Nat)
    (payloads : List Bytes) (cache : Option CachedToken) (replies : List Reply) (i : Nat) :
    (p.deliverAll now payloads cache replies)[i]? =
      payloads[i]?.map fun b => p.deliveryWith t b (replies[i]?.getD .unreachable) := by
  induction payloads generalizing replies i with
  | nil => rfl
  | cons payload rest ih =>
    rw [deliverAll]
    cases hc : Credentials.authorize? t (p.call payload) with
    | some c =>
      rw [deliver_of_authorized ht hc]
      cases i with
      | zero => cases replies <;> rfl
      | succ i =>
        have hreply : replies.tail[i]? = replies[i + 1]? := by rw [List.getElem?_tail]
        rw [List.getElem?_cons_succ, List.getElem?_cons_succ, ih, hreply]
    | none =>
      rw [deliver_of_unauthorized ht hc]
      have hnone (b : Bytes) (r : Reply) :
          p.deliveryWith t b r = ⟨b, [], .fail .unreachable⟩ := by
        rw [deliveryWith, (authorize?_call_eq_none_iff payload b).mp hc]
      cases i with
      | zero => simp [hnone]
      | succ i =>
        -- No call was made, so the server still has all its replies, but they do not matter.
        rw [List.getElem?_cons_succ, List.getElem?_cons_succ, ih]
        simp only [hnone]

lemma deliverAll_singleton (ht : p.credentials.ownToken? = some t) (now : Nat) (payload : Bytes)
    (cache : Option CachedToken) (reply : Reply) :
    p.deliverAll now [payload] cache [reply] = [p.deliveryWith t payload reply] := by
  refine List.ext_getElem? fun i => ?_
  rw [getElem?_deliverAll ht]
  cases i <;> rfl

end Delivering

lemma create_eq_ok_iff {endpoint topic : String} {project : Option String} {c : Credentials} :
    create endpoint project topic c = .ok p ↔ ∃ full, Topic.qualify project topic = .ok full ∧
      p = ⟨full, Text.dropRightSlashes endpoint ++ "/v1/" ++ full ++ ":publish", c⟩ := by
  rw [create, Attempt.bind_eq_ok_iff]
  refine exists_congr fun full => and_congr_right fun _ => ?_
  rw [Except.ok.injEq]
  exact eq_comm

end PubSub

/-- A payload has made one call, or none if the token cannot stand in a header, and what the call
got as its reply is the result. -/
structure Delivery.Settles (d : Delivery) (c : Credentials) (url : String) (payload : Bytes)
    (reply : Reply) : Prop where
  payload_eq : d.payload = payload
  calls : (d.calls = [] ∧ ∃ t, c = .fixed t ∧ Credentials.isHeaderText t = false) ∨
    ∃ call, d.calls = [(call, reply)] ∧ (∀ t, c = .fixed t → Credentials.isHeaderText t = true) ∧
      call.method = .post ∧ call.url = url ∧ Carries call.body payload
  result : d.result = .ok () ↔ ∃ call status body, d.calls = [(call, .answer status body)] ∧
    200 ≤ status ∧ status < 300 ∧ PubSub.isAcknowledgement body = true
  ends : d.result = .ok () ∨ ∃ e, d.result = .fail e

/-- The result as a matter of the answer, with a token that can stand in a header. -/
lemma Delivery.Settles.result_of_answer {d : Delivery} {c : Credentials} {url : String}
    {payload body : Bytes} {status : Nat} (h : d.Settles c url payload (.answer status body))
    (hc : ∀ t, c = .fixed t → Credentials.isHeaderText t = true) :
    d.result = .ok () ↔ 200 ≤ status ∧ status < 300 ∧ PubSub.isAcknowledgement body = true := by
  obtain ⟨-, t, ht, hbad⟩ | ⟨call, hcalls, -⟩ := h.calls
  · rw [hc t ht] at hbad
    cases hbad
  · rw [h.result, hcalls]
    simp

namespace PubSub

variable {p : PubSub}

lemma deliveryWith_settles {t : Option String} (ht : p.credentials.ownToken? = some t)
    (payload : Bytes) (reply : Reply) :
    (p.deliveryWith t payload reply).Settles p.credentials p.url payload reply := by
  rw [deliveryWith]
  cases hc : Credentials.authorize? t (p.call payload) with
  | none =>
    obtain ⟨text, htext, hbad⟩ := Credentials.authorize?_eq_none_iff.mp hc
    have htoken : p.credentials = .fixed text := (Credentials.eq_fixed_iff ht).mpr htext
    exact ⟨rfl, .inl ⟨rfl, text, htoken, hbad⟩, by simp [Attempt.fail], .inr ⟨_, rfl⟩⟩
  | some call =>
    obtain ⟨hmethod, hurl, hbody⟩ := Credentials.authorize?_eq_some hc
    have hcarries : Carries call.body payload := hbody ▸ carries_call p payload
    have hheader (text : String) (htext : p.credentials = .fixed text) :
        Credentials.isHeaderText text = true := by
      obtain rfl := (Credentials.eq_fixed_iff ht).mp htext
      by_contra hbad
      have hnone : Credentials.authorize? (some text) (p.call payload) = none :=
        Credentials.authorize?_eq_none_iff.mpr ⟨text, rfl, by simpa using hbad⟩
      rw [hnone] at hc
      cases hc
    refine ⟨rfl, .inr ⟨call, rfl, hheader, hmethod, hurl, hcarries⟩, ?_,
      outcome_eq_ok_or_fail p reply⟩
    rw [outcome_eq_ok_iff]
    simp

/-- Payloads that are published one after another make one call each, to the address of the
topic. The reply to this call alone says whether a payload was published; it would have been the
same for the payload on its own. -/
theorem deliverAll_settles {endpoint topic : String} {project : Option String} {c : Credentials}
    {p : PubSub} (hp : create endpoint project topic c = .ok p) (hc : ∀ url, c ≠ .metadata url) :
    ∃ stem full, Text.IsStem stem endpoint ∧ Topic.qualify project topic = .ok full ∧
      ∀ (now : Nat) (payloads : List Bytes) (cache : Option CachedToken) (replies : List Reply),
        (p.deliverAll now payloads cache replies).length = payloads.length ∧
        ∀ (i : Nat) (payload : Bytes) (d : Delivery), payloads[i]? = some payload →
          (p.deliverAll now payloads cache replies)[i]? = some d →
          let reply := replies[i]?.getD .unreachable
          d.Settles c (stem ++ "/v1/" ++ full ++ ":publish") payload reply ∧
          ∀ now' cache', p.deliverAll now' [payload] cache' [reply] = [d] := by
  obtain ⟨full, hfull, hfields⟩ := create_eq_ok_iff.mp hp
  have hcredentials : p.credentials = c := by rw [hfields]
  have hurl : p.url = Text.dropRightSlashes endpoint ++ "/v1/" ++ full ++ ":publish" := by
    rw [hfields]
  obtain ⟨t, ht⟩ := Credentials.ownToken?_isSome hc
  rw [← hcredentials] at ht
  refine ⟨_, full, Text.isStem_dropRightSlashes endpoint, hfull, ?_⟩
  intro now payloads cache replies
  refine ⟨length_deliverAll now payloads cache replies, fun i payload d hpayload hd => ?_⟩
  obtain rfl : d = p.deliveryWith t payload (replies[i]?.getD .unreachable) := by
    rw [getElem?_deliverAll ht, hpayload, Option.map_some, Option.some_inj] at hd
    exact hd.symm
  refine ⟨?_, fun now' cache' => deliverAll_singleton ht now' payload cache' _⟩
  rw [← hurl, ← hcredentials]
  exact deliveryWith_settles ht payload _

/-- The first payload is refused. The answer for the second one is no list of messages, although
its status tells of success. The third one is published all the same. -/
theorem deliverAll_settles_refused :
    let p : PubSub := ⟨"projects/proj/topics/hooks",
      "http://localhost/v1/projects/proj/topics/hooks:publish", .fixed "tok"⟩
    let refusal : Reply := .answer 403 []
    let garbled : Reply := .answer 200 (Utf8.ofString "\x7b\"messageIds\": [7]\x7d")
    let success : Reply := .answer 200 (Utf8.ofString "\x7b\x7d")
    create "http://localhost/" (some "proj") "hooks" (.fixed "tok") = .ok p ∧
      (∀ url, Credentials.fixed "tok" ≠ .metadata url) ∧
      ∃ d e f, p.deliverAll 0 [[1], [2], [3]] none [refusal, garbled, success] = [d, e, f] ∧
        d.Settles (.fixed "tok") p.url [1] refusal ∧ e.Settles (.fixed "tok") p.url [2] garbled ∧
        f.Settles (.fixed "tok") p.url [3] success ∧
        d.result ≠ .ok () ∧ e.result ≠ .ok () ∧ f.result = .ok () := by
  intro p refusal garbled success
  have hp : create "http://localhost/" (some "proj") "hooks" (.fixed "tok") = .ok p := rfl
  have hc : ∀ url, Credentials.fixed "tok" ≠ .metadata url := fun url h => nomatch h
  obtain ⟨stem, full, hstem, hfull, hall⟩ := deliverAll_settles hp hc
  have hdrop : Text.dropRightSlashes "http://localhost/" = "http://localhost" := by decide +kernel
  have hqualify : Topic.qualify (some "proj") "hooks" = .ok "projects/proj/topics/hooks" := by
    decide +kernel
  obtain rfl : stem = "http://localhost" := (Text.isStem_iff.mp hstem).trans hdrop
  obtain rfl : "projects/proj/topics/hooks" = full := Except.ok.inj (hqualify.symm.trans hfull)
  obtain ⟨hlength, heach⟩ := hall 0 [[1], [2], [3]] none [refusal, garbled, success]
  obtain ⟨d, e, f, hds⟩ := List.length_eq_three.mp hlength
  obtain ⟨hd, -⟩ := heach 0 [1] d rfl (by rw [hds]; rfl)
  obtain ⟨he, -⟩ := heach 1 [2] e rfl (by rw [hds]; rfl)
  obtain ⟨hf, -⟩ := heach 2 [3] f rfl (by rw [hds]; rfl)
  have htoken : ∀ t, Credentials.fixed "tok" = .fixed t → Credentials.isHeaderText t = true := by
    rintro _ ⟨⟩
    decide
  refine ⟨hp, hc, d, e, f, hds, hd, he, hf, ?_, ?_, ?_⟩
  · rw [Ne, hd.result_of_answer htoken]
    omega
  · rw [Ne, he.result_of_answer htoken]
    decide +kernel
  · rw [hf.result_of_answer htoken]
    exact ⟨by decide, by decide, isAcknowledgement_iff.mpr (.inl (by decide +kernel))⟩

end PubSub

end GatedRelay
