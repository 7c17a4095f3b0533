import GatedRelay.Proofs.FormText
import GatedRelay.Proofs.Headers
import GatedRelay.Proofs.HostPorts
import GatedRelay.Proofs.PeerAddresses
import GatedRelay.Proofs.Republishing
import GatedRelay.Web.Handler

/-!
# Which requests are taken up

A request is taken up if its peer has a host and a port, if it is a POST with a body, and if the
body is what its media type says. Every other request is at fault itself, and the relay says so
before any program runs. Expressions see the body as JSON or as form fields if and only if it came
as such.
-/

namespace GatedRelay

open GatedRelay.Expr (Entries Value)
open GatedRelay.RequestContext (headersNamed readBody)

/-! ### Media types -/

namespace Request

/-- The first content type up to its parameters, without blanks around it and in lower case. -/
def mediaType? (r : Request) : Option String :=
  (headersNamed "content-type" r.headers).head?.map fun h =>
    String.ofList (Text.lowerAscii
      (Text.trim ((Utf8.decodeLossy h.2).toList.takeWhile (· ≠ ';'))))

def BringsJson (r : Request) : Prop :=
  r.mediaType? = some "application/json" ∨ r.mediaType? = some "text/json"

def BringsForm (r : Request) : Prop :=
  r.mediaType? = some "application/x-www-form-urlencoded"

/-- The media type alone decides how the body is read. -/
lemma bodyKind_iff (r : Request) :
    (r.bodyKind = .json ↔ r.BringsJson) ∧ (r.bodyKind = .form ↔ r.BringsForm) := by
  rw [bodyKind, RequestContext.header?_firstHeaders, BringsJson, BringsForm, mediaType?]
  cases (headersNamed "content-type" r.headers).head? with
  | none => simp [BodyKind.ofContentType]
  | some h =>
    rw [Option.map_some, Option.map_some, BodyKind.ofContentType]
    split <;> simp_all

end Request

/-! ### Bodies -/

namespace RequestContext

variable {r : Request} {now : Int}

lemma exists_build_iff :
    (∃ c, build r now = .ok c) ↔ (HostPort.split? r.remoteAddr).isSome ∧ r.method = "POST" ∧
      r.body ≠ [] ∧ ∃ parts, readBody r.bodyKind r.body = .ok parts := by
  constructor
  · rintro ⟨c, h⟩
    obtain ⟨_, _, _, hip, hmethod, hbody, hread, -⟩ := build_eq_ok_iff.mp h
    exact ⟨Option.isSome_of_eq_some hip, hmethod, hbody, _, hread⟩
  · rintro ⟨hpeer, hmethod, hbody, parts, hread⟩
    exact build_of_readBody hpeer hmethod hbody hread

lemma exists_readBody_iff {kind : BodyKind} {body : Bytes} :
    (∃ parts, readBody kind body = .ok parts) ↔
      (kind = .json → ∃ j, Json.parseBytes? body = some j) ∧
        (kind = .form → Form.WellEscaped body) := by
  cases kind with
  | raw => simp [readBody]
  | json => cases h : Json.parseBytes? body <;> simp [readBody, h]
  | form =>
    rw [← Form.exists_parse_ok_iff]
    cases h : Form.parse body <;> simp [readBody, h]

/-- The views of a body that was read are those of its kind. -/
lemma parts_of_readBody {kind : BodyKind} {body : Bytes} {json : Option Json}
    {post : Option Form.Fields} (h : readBody kind body = .ok (json, post)) :
    (kind = .json → ∃ j, Json.parseBytes? body = some j ∧ json = some j) ∧
      (kind ≠ .json → json = none) ∧
      (kind = .form → ∃ fields, Form.parse body = .ok fields ∧ post = some fields) ∧
      (kind ≠ .form → post = none) ∧ (json = none ∨ post = none) := by
  cases kind with
  | raw =>
    cases h
    exact ⟨fun hk => absurd hk (by decide), fun _ => rfl, fun hk => absurd hk (by decide),
      fun _ => rfl, .inl rfl⟩
  | json =>
    rw [readBody] at h
    split at h
    · next j hj =>
      cases h
      exact ⟨fun _ => ⟨j, hj, rfl⟩, fun hk => absurd rfl hk, fun hk => absurd hk (by decide),
        fun _ => rfl, .inr rfl⟩
    · cases h
  | form =>
    rw [readBody] at h
    split at h
    · next fields hfields =>
      cases h
      exact ⟨fun hk => absurd hk (by decide), fun _ => rfl, fun _ => ⟨fields, hfields, rfl⟩,
        fun hk => absurd rfl hk, .inl rfl⟩
    · cases h

/-- Expressions find the fields of a body where there are such. -/
lemma request_fields (c : RequestContext) :
    ∃ entries, c.request = .map none entries ∧
      Entries.find? (.string "json") entries = c.json.map Value.ofJson ∧
      Entries.find? (.string "post") entries = c.post.map postValue := by
  refine ⟨_, rfl, ?_, ?_⟩
  · cases c.json <;> cases c.post <;> rfl
  · cases c.json <;> cases c.post <;> rfl

end RequestContext

/-- A request that is not taken up is rejected as a fault of the client, before any program runs. -/
lemma Relay.process_of_build_error {m : Type → Type} [Monad m] (relay : Relay m)
    {occasion : Occasion} {r : Request} {e : RequestError}
    (hlength : r.body.length ≤ relay.maxBodyBytes)
    (h : RequestContext.build r occasion.arrival = .error e) :
    relay.process occasion r = pure (.fail ⟨.clientError, .request, .request e⟩) := by
  rw [process, if_neg (Nat.not_lt.mpr hlength), h]
  rfl

/-- Which requests are taken up, what becomes of the others, and what of a body is known in the
end. -/
theorem build_settles (r : Request) (now : Int) :
    ((∃ c, RequestContext.build r now = .ok c) ↔
      (∃ host, HostPort.IsPeer r.remoteAddr.toList host) ∧ r.method = "POST" ∧ r.body ≠ [] ∧
        (r.BringsJson → ∃ j, Json.parseBytes? r.body = some j) ∧
        (r.BringsForm → Form.WellEscaped r.body)) ∧
    (∀ e, RequestContext.build r now = .error e →
      ∀ {m : Type → Type} [Monad m] (relay : Relay m) (occasion : Occasion),
        occasion.arrival = now → r.body.length ≤ relay.maxBodyBytes →
        relay.process occasion r = pure (.fail ⟨.clientError, .request, .request e⟩)) ∧
    ∀ c, RequestContext.build r now = .ok c →
      (r.BringsJson → ∃ j, Json.parseBytes? r.body = some j ∧ c.json = some j) ∧
      (¬r.BringsJson → c.json = none) ∧
      (r.BringsForm → ∃ fields, Form.parse r.body = .ok fields ∧ c.post = some fields) ∧
      (¬r.BringsForm → c.post = none) ∧
      (c.json = none ∨ c.post = none) ∧
      ∃ entries, c.request = .map none entries ∧
        Entries.find? (.string "json") entries = c.json.map Value.ofJson ∧
        Entries.find? (.string "post") entries = c.post.map RequestContext.postValue := by
  obtain ⟨hkindJson, hkindForm⟩ := r.bodyKind_iff
  refine ⟨?_, fun e he m _ relay occasion hoccasion hlength => ?_, fun c hc => ?_⟩
  · rw [RequestContext.exists_build_iff, HostPort.isSome_split?_iff,
      RequestContext.exists_readBody_iff, hkindJson, hkindForm]
  · exact relay.process_of_build_error hlength (hoccasion ▸ he)
  · obtain ⟨-, hread⟩ := RequestContext.body_of_build hc
    obtain ⟨hjson, hnoJson, hform, hnoForm, hone⟩ := RequestContext.parts_of_readBody hread
    rw [hkindJson] at hjson
    rw [ne_eq, hkindJson] at hnoJson
    rw [hkindForm] at hform
    rw [ne_eq, hkindForm] at hnoForm
    exact ⟨hjson, hnoJson, hform, hnoForm, hone, c.request_fields⟩

end GatedRelay
