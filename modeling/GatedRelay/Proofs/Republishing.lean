import GatedRelay.Proofs.Compiling
import GatedRelay.Proofs.JsonText
import GatedRelay.Proofs.Stages

/-!
# Bodies as messages

A body can be handed on in two ways: as the value that the request holds, and as a text that is
read once more. Both give the same payload, and a payload that comes back as a body is published
as it is.
-/

namespace GatedRelay

open GatedRelay.Expr (Program ProgramSet Role Term Value World)
open GatedRelay.RequestContext (header? firstHeaders readBody)

/-! ### Programs that hand on the body -/

namespace Expr

lemma Program.compile_of_tokens {role : Role} {source : String} {tokens : List Token} {e : Term}
    {t : Ty} (hsource : Token.ofText source.toList = tokens) (he : Parser.whole tokens = .ok e)
    (hplain : tokens.any Token.isUnreadable = false) (ht : infer [] e = (t, []))
    (hrole : role = .authorization → t = .bool) :
    Program.compile role source = .ok ⟨role, source, e, t⟩ := by
  subst hsource
  rw [Program.compile_eq_ok_iff, Expr.compile_eq_ok_iff, read_eq_parsed_iff]
  exact ⟨⟨⟨he, hplain⟩, ht⟩, rfl, rfl, hrole⟩

/-- The tree of `request.name`. -/
def requestField (name : String) : Term := .select (.ident "request") name

lemma compile_true : Program.compile .authorization "true" =
    .ok ⟨.authorization, "true", .literal (.bool true), .bool⟩ := by
  have htokens : Token.ofText "true".toList = [.trueWord] := by decide +kernel
  exact Program.compile_of_tokens htokens rfl rfl rfl fun _ => rfl

lemma compile_requestJson : Program.compile .extraction "request.json" =
    .ok ⟨.extraction, "request.json", requestField "json", .dyn⟩ := by
  have htokens : Token.ofText "request.json".toList =
      [.ident "request".toList, .symbol .dot, .ident "json".toList] := by decide +kernel
  exact Program.compile_of_tokens htokens rfl rfl rfl nofun

lemma compile_requestBody : Program.compile .extraction "request.body" =
    .ok ⟨.extraction, "request.body", requestField "body", .dyn⟩ := by
  have htokens : Token.ofText "request.body".toList =
      [.ident "request".toList, .symbol .dot, .ident "body".toList] := by decide +kernel
  exact Program.compile_of_tokens htokens rfl rfl rfl nofun

lemma compile_parseBody : Program.compile .extraction "parseJSON(request.body)" =
    .ok ⟨.extraction, "parseJSON(request.body)", .call "parseJSON" [requestField "body"],
      .map⟩ := by
  have htokens : Token.ofText "parseJSON(request.body)".toList =
      [.ident "parseJSON".toList, .symbol .parenOpen, .ident "request".toList, .symbol .dot,
        .ident "body".toList, .symbol .parenClose] := by decide +kernel
  exact Program.compile_of_tokens htokens rfl rfl rfl nofun

variable {world : World} {c : RequestContext}

lemma eval_requestBody :
    eval (Scope.root world c.origin c.request) (requestField "body") = .ok (.string c.body) := rfl

lemma eval_requestJson {j : Json} (h : c.json = some j) :
    eval (Scope.root world c.origin c.request) (requestField "json") = .ok (.ofJson j) := by
  cases c
  cases h
  rfl

lemma eval_parseBody {fields : JsonFields}
    (h : Json.parseString? c.body = some (.object fields)) :
    eval (Scope.root world c.origin c.request) (.call "parseJSON" [requestField "body"]) =
      .ok (.ofJson (.object fields)) := by
  have happly (now : Moment) : Function.apply now (.library .parseJson) [.string c.body] =
      .ok (.ofJson (.object fields)) := by
    rw [Function.apply, Library.apply, Library.jsonObject, h]
    rfl
  exact happly _

end Expr

/-! ### Contexts -/

namespace Request

def bodyKind (r : Request) : BodyKind :=
  .ofContentType (header? "content-type" (firstHeaders r.headers))

end Request

namespace RequestContext

variable {r : Request} {now : Int}

lemma body_of_build {c : RequestContext} (h : build r now = .ok c) :
    c.body = Utf8.decodeLossy r.body ∧ readBody r.bodyKind r.body = .ok (c.json, c.post) := by
  obtain ⟨_, _, _, -, -, -, hread, rfl⟩ := build_eq_ok_iff.mp h
  exact ⟨rfl, hread⟩

lemma build_of_readBody {parts : Option Json × Option Form.Fields}
    (hpeer : (HostPort.split? r.remoteAddr).isSome) (hmethod : r.method = "POST")
    (hbody : r.body ≠ []) (hread : readBody r.bodyKind r.body = .ok parts) :
    ∃ c, build r now = .ok c := by
  obtain ⟨originIp, hip⟩ := Option.isSome_iff_exists.mp hpeer
  exact ⟨_, build_eq_ok_iff.mpr ⟨originIp, parts.1, parts.2, hip, hmethod, hbody, hread, rfl⟩⟩

end RequestContext

namespace Json

variable {bs : Bytes} {j : Json}

lemma ne_nil_of_parseBytes? (h : parseBytes? bs = some j) : bs ≠ [] := by
  rintro rfl
  have hempty : Utf8.decode? [] = some [] := Utf8.decode?_encode []
  rw [parseBytes?, hempty] at h
  cases h

/-- Broken sequences apart, a body as a text holds the same JSON as its bytes. -/
lemma parseString?_decodeLossy (h : parseBytes? bs = some j) :
    parseString? (Utf8.decodeLossy bs) = some j := by
  obtain ⟨cs, hcs, hj⟩ := Option.bind_eq_some_iff.mp h
  rw [Utf8.decodeLossy_of_decode? hcs, parseString?, String.toList_ofList, hj]

lemma parseBytes?_ordered (h : parseBytes? bs = some j) : j.Ordered := by
  obtain ⟨cs, -, hj⟩ := Option.bind_eq_some_iff.mp h
  exact parse?_ordered hj

end Json

/-! ### Messages -/

lemma messageOf_string {s : String} {j : Json} (h : Json.parseString? s = some j)
    (hj : j ≠ .null) : messageOf (.string s) = .ok j := by
  rw [messageOf, h]
  cases j <;> first | rfl | contradiction

lemma messageOf_ofJson_array {items : List Json} (h : (Json.array items).Ordered) :
    messageOf (.ofJson (.array items)) = .ok (.array items) := by
  have hjson := Value.toJson_ofJson h
  rw [Value.ofJson] at hjson ⊢
  rw [messageOf, hjson]

lemma messageOf_ofJson_object {fields : JsonFields} (h : (Json.object fields).Ordered) :
    messageOf (.ofJson (.object fields)) = .ok (.object fields) := by
  have hjson := Value.toJson_ofJson h
  rw [Value.ofJson] at hjson ⊢
  rw [messageOf, hjson]

theorem messageOf_ordered {v : Value} {j : Json} (h : messageOf v = .ok j) : j.Ordered := by
  unfold messageOf at h
  split at h
  · split at h <;> cases h
    next hj => exact Json.parse?_ordered hj
  · split at h <;> cases h
    next hj => exact Value.toJson_ordered hj
  · split at h <;> cases h
    next hj => exact Value.toJson_ordered hj
  · cases h

theorem messageOf_ne_null {v : Value} {j : Json} (h : messageOf v = .ok j) : j ≠ .null := by
  rintro rfl
  unfold messageOf at h
  split at h
  · split at h <;> cases h
    contradiction
  · split at h <;> cases h
    next hj =>
      rw [Value.toJson, Attempt.map_eq_ok_iff] at hj
      obtain ⟨_, -, ⟨⟩⟩ := hj
  · split at h <;> cases h
    next hj =>
      rw [Value.toJson, Attempt.map_eq_ok_iff] at hj
      obtain ⟨_, -, ⟨⟩⟩ := hj
  · cases h

lemma Expr.ProgramSet.messages_of_accepts {ps : ProgramSet} {worlds : Role → World}
    {c : RequestContext}
    {payload : Bytes} (h : ProgramSet.Accepts ps worlds c payload) {o : Outbox}
    (ho : o.failing = false) :
    (ps.process (m := StateM Outbox) worlds Outbox.publish c o).2.messages =
      o.messages ++ [payload] := by
  rw [process_outbox_of_working ((payloadFor_eq_ok_iff ..).mpr h) ho]

/-- The programs of an open relay with this message compile, and whatever makes the answers, a
working outbox gets just this payload of a request. -/
def Publishes (message : String) (c : RequestContext) (payload : Bytes) : Prop :=
  (∃ ps, ProgramSet.compile "true" message none = .ok ps) ∧
  ∀ (response : Option String) (ps : ProgramSet) (worlds : Role → World) (o : Outbox),
    ProgramSet.compile "true" message response = .ok ps → o.failing = false →
      (ps.process (m := StateM Outbox) worlds Outbox.publish c o).2.messages =
        o.messages ++ [payload]

lemma publishes_of_eval {message : String} {c : RequestContext} {e : Term} {t : Expr.Ty}
    {v : Value} {j : Json}
    (hp : Program.compile .extraction message = .ok ⟨.extraction, message, e, t⟩)
    (he : ∀ world, Expr.eval (Expr.Scope.root world c.origin c.request) e = .ok v)
    (hj : messageOf v = .ok j) : Publishes message c j.bytes := by
  refine ⟨⟨_, ProgramSet.compile_of_programs Expr.compile_true hp⟩, ?_⟩
  intro response ps worlds o hps ho
  obtain ⟨ha, hx⟩ := ProgramSet.programs_of_compile hps
  rw [Expr.compile_true] at ha
  rw [hp] at hx
  have haccepts : ProgramSet.Accepts ps worlds c j.bytes := by
    refine ⟨?_, v, j, ?_, hj, rfl⟩
    · rw [← Except.ok.inj ha]
      rfl
    · rw [← Except.ok.inj hx]
      exact he _
  exact ProgramSet.messages_of_accepts haccepts ho

lemma publishes_requestBody {c : RequestContext} {j : Json}
    (h : Json.parseString? c.body = some j) (hj : j ≠ .null) :
    Publishes "request.body" c j.bytes :=
  publishes_of_eval Expr.compile_requestBody (fun _ => Expr.eval_requestBody)
    (messageOf_string h hj)

/-- An array or object as a body is published in the same bytes, whether its value is taken or its
text is read once more. -/
theorem publishes_parsed_body {r : Request} {j : Json} (hkind : r.bodyKind = .json)
    (hbody : Json.parseBytes? r.body = some j)
    (hj : (∃ items, j = .array items) ∨ ∃ fields, j = .object fields) (now : Int) :
    (r.method = "POST" → (HostPort.split? r.remoteAddr).isSome →
      ∃ c, RequestContext.build r now = .ok c) ∧
    ∀ c, RequestContext.build r now = .ok c →
      Publishes "request.json" c j.bytes ∧ Publishes "request.body" c j.bytes ∧
      ∀ fields, j = .object fields → Publishes "parseJSON(request.body)" c j.bytes := by
  have hread : readBody r.bodyKind r.body = .ok (some j, none) := by
    rw [hkind, readBody, hbody]
  refine ⟨fun hmethod hpeer => RequestContext.build_of_readBody hpeer hmethod
    (Json.ne_nil_of_parseBytes? hbody) hread, fun c hc => ?_⟩
  obtain ⟨htext, hparts⟩ := RequestContext.body_of_build hc
  have hjson : c.json = some j := by
    rw [hread] at hparts
    exact (Prod.mk.inj (Except.ok.inj hparts)).1.symm
  have hstring : Json.parseString? c.body = some j := by
    rw [htext, Json.parseString?_decodeLossy hbody]
  have hvalue : messageOf (.ofJson j) = .ok j := by
    have hordered := Json.parseBytes?_ordered hbody
    obtain ⟨items, rfl⟩ | ⟨fields, rfl⟩ := hj
    · exact messageOf_ofJson_array hordered
    · exact messageOf_ofJson_object hordered
  refine ⟨?_, ?_, ?_⟩
  · exact publishes_of_eval Expr.compile_requestJson (fun _ => Expr.eval_requestJson hjson) hvalue
  · exact publishes_requestBody hstring (messageOf_ne_null hvalue)
  · rintro fields rfl
    exact publishes_of_eval Expr.compile_parseBody (fun _ => Expr.eval_parseBody hstring) hvalue

theorem publishes_parsed_body_object :
    let j : Json := .object [("a", .array [.int (.ofByte 7)])]
    let r : Request := ⟨"127.0.0.1:80", "POST", ⟨none, "/", none⟩,
      [("content-type", Utf8.ofString "application/json")], j.bytes⟩
    ∃ c, RequestContext.build r 0 = .ok c ∧ Publishes "request.json" c j.bytes ∧
      Publishes "request.body" c j.bytes ∧ Publishes "parseJSON(request.body)" c j.bytes := by
  intro j r
  have hkind : r.bodyKind = .json := by
    rw [Request.bodyKind, firstHeaders, Utf8.decodeLossy_ofString]
    decide +kernel
  have hitems : (Json.array [.int (.ofByte 7)]).Ordered :=
    .array (List.forall_mem_singleton.mpr (.int _))
  have hordered : j.Ordered :=
    .object (List.pairwise_singleton _ _) (List.forall_mem_singleton.mpr hitems)
  have hbody : Json.parseBytes? r.body = some j :=
    Json.parseBytes?_bytes hordered rfl (by decide)
  obtain ⟨hbuilds, hpublishes⟩ := publishes_parsed_body hkind hbody (.inr ⟨_, rfl⟩) 0
  obtain ⟨c, hc⟩ := hbuilds rfl (by decide +kernel)
  obtain ⟨hjson, htext, hparsed⟩ := hpublishes c hc
  exact ⟨c, hc, hjson, htext, hparsed _ rfl⟩

/-- Published bytes hold the message, and they are published again when they come as a body. -/
theorem republishes_published {v : Value} {j : Json} (hv : messageOf v = .ok j)
    (hexact : j.isExact = true) (hdepth : j.depth ≤ 127) :
    (∀ (ps : ProgramSet) (worlds : Role → World) (c : RequestContext) (o : Outbox),
      ps.authorization.evaluate worlds c.origin c.request = .ok (.bool true) →
      ps.extraction.evaluate worlds c.origin c.request = .ok v → o.failing = false →
      (ps.process (m := StateM Outbox) worlds Outbox.publish c o).2.messages =
        o.messages ++ [j.bytes]) ∧
    Json.parseBytes? j.bytes = some j ∧
    ∀ (r : Request) (now : Int), r.body = j.bytes →
      (r.method = "POST" → (HostPort.split? r.remoteAddr).isSome → r.bodyKind ≠ .form →
        ∃ c, RequestContext.build r now = .ok c) ∧
      ∀ c, RequestContext.build r now = .ok c → Publishes "request.body" c j.bytes := by
  have hparse : Json.parseBytes? j.bytes = some j :=
    Json.parseBytes?_bytes (messageOf_ordered hv) hexact hdepth
  refine ⟨fun ps worlds c o ha hx ho => ?_, hparse, fun r now hbody => ⟨?_, fun c hc => ?_⟩⟩
  · exact ProgramSet.messages_of_accepts ⟨ha, v, j, hx, hv, rfl⟩ ho
  · intro hmethod hpeer hkind
    rw [← hbody] at hparse
    have hne : r.body ≠ [] := Json.ne_nil_of_parseBytes? hparse
    cases h : r.bodyKind with
    | json =>
      have hread : readBody r.bodyKind r.body = .ok (some j, none) := by rw [h, readBody, hparse]
      exact RequestContext.build_of_readBody hpeer hmethod hne hread
    | form => exact absurd h hkind
    | raw =>
      have hread : readBody r.bodyKind r.body = .ok (none, none) := by rw [h, readBody]
      exact RequestContext.build_of_readBody hpeer hmethod hne hread
  · obtain ⟨htext, -⟩ := RequestContext.body_of_build hc
    have hstring : Json.parseString? c.body = some j := by
      rw [htext, hbody, Json.parseString?_decodeLossy hparse]
    exact publishes_requestBody hstring (messageOf_ne_null hv)

theorem republishes_published_list :
    let v : Value := .list none [.uint 18446744073709551615, .string "\x00é\n", .bool true]
    let j : Json := .array [.int (.ofUInt64 18446744073709551615), .string "\x00é\n", .bool true]
    messageOf v = .ok j ∧ Json.parseBytes? j.bytes = some j := by
  intro v j
  have hv : messageOf v = .ok j := rfl
  have hdepth : j.depth ≤ 127 := by decide
  obtain ⟨-, hparse, -⟩ := republishes_published hv rfl hdepth
  exact ⟨hv, hparse⟩

end GatedRelay
