import GatedRelay.Proofs.ObjectTexts
import GatedRelay.Proofs.Republishing
import GatedRelay.Proofs.Scanning

/-!
# Tests for the fields of a body

An expression can take a field out of an object that came as a body, and it can ask whether the
field is there. A field that the object does not have is a missing key, unless a function is known
by its name: then the name stands for the function.
-/

namespace GatedRelay

open GatedRelay.Expr (Eval Function Program Role Scope Term Value selectField)
open GatedRelay.Expr.Token (EndsWord IsIdentifier Scans ofText)
open GatedRelay.RequestContext (firstHeaders readBody)

/-! ### Texts -/

namespace Expr

variable {k : String}

/-- The text that takes a field out of the body. -/
def fieldText (k : String) : String := "request.json." ++ k

/-- The text that asks for a field of the body. -/
def presenceText (k : String) : String := "has(" ++ fieldText k ++ ")"

def bodyField (k : String) : Term := .select (requestField "json") k

def fieldTokens (k : String) : List Token :=
  [.ident "request".toList, .symbol .dot, .ident "json".toList, .symbol .dot, .ident k.toList]

def presenceTokens (k : String) : List Token :=
  .ident "has".toList :: .symbol .parenOpen :: (fieldTokens k ++ [.symbol .parenClose])

lemma scans_fieldText (hk : IsIdentifier k.toList) {rest : List Char} {ts : List Token}
    (hr : EndsWord rest) (h : Scans rest ts) :
    Scans ((fieldText k).toList ++ rest) (fieldTokens k ++ ts) := by
  have htext : (fieldText k).toList ++ rest =
      "request".toList ++ '.' :: ("json".toList ++ '.' :: (k.toList ++ rest)) := by
    simp [fieldText]
  have hdot : ∀ cs, EndsWord ('.' :: cs) := by
    rintro cs _ ⟨⟩
    decide
  have hrequest : IsIdentifier "request".toList := by decide
  have hjson : IsIdentifier "json".toList := by decide
  rw [htext]
  exact .word hrequest (hdot _) (.member hjson (hdot _) (.member hk hr h))

lemma ofText_fieldText (hk : IsIdentifier k.toList) :
    ofText (fieldText k).toList = fieldTokens k := by
  have h : Scans ((fieldText k).toList ++ []) (fieldTokens k ++ []) :=
    scans_fieldText hk nofun .nil
  rw [List.append_nil, List.append_nil] at h
  exact h.ofText

lemma ofText_presenceText (hk : IsIdentifier k.toList) :
    ofText (presenceText k).toList = presenceTokens k := by
  have htext : (presenceText k).toList =
      "has".toList ++ '(' :: ((fieldText k).toList ++ [')']) := by
    simp [presenceText]
  have hhas : IsIdentifier "has".toList := by decide
  have hopen : EndsWord ('(' :: ((fieldText k).toList ++ [')'])) := by
    rintro _ ⟨⟩
    decide
  have hclose : EndsWord [')'] := by
    rintro _ ⟨⟩
    decide
  rw [htext]
  exact (Scans.word hhas hopen (.open (scans_fieldText hk hclose (.close .nil)))).ofText

lemma compile_fieldText (hk : IsIdentifier k.toList) {role : Role}
    (hrole : role ≠ .authorization) :
    Program.compile role (fieldText k) = .ok ⟨role, fieldText k, bodyField k, .dyn⟩ := by
  have hparse : Parser.whole (fieldTokens k) = .ok (bodyField k) := by
    have hname : String.ofList k.toList = k := String.ofList_toList
    conv_rhs => rw [← hname]
    rfl
  exact Program.compile_of_tokens (ofText_fieldText hk) hparse rfl rfl
    fun h => absurd h hrole

/-- Asking for a field is a condition, so it can be a part of any program. -/
lemma compile_presenceText (hk : IsIdentifier k.toList) (role : Role) :
    Program.compile role (presenceText k) =
      .ok ⟨role, presenceText k, .call "has" [bodyField k], .bool⟩ := by
  have hparse : Parser.whole (presenceTokens k) = .ok (.call "has" [bodyField k]) := by
    have hname : String.ofList k.toList = k := String.ofList_toList
    conv_rhs => rw [← hname]
    rfl
  exact Program.compile_of_tokens (ofText_presenceText hk) hparse rfl rfl fun _ => rfl

/-! ### Fields -/

namespace Entries

lemma find?_ofJsonFields (k : String) (fields : JsonFields) :
    find? (.string k) (Value.ofJsonFields fields) = (JsonFields.get? k fields).map .ofJson := by
  induction fields with
  | nil => rfl
  | cons f rest ih =>
    rw [Value.ofJsonFields, find?, JsonFields.get?_cons, ih]
    by_cases h : f.1 = k
    · rw [if_pos h, if_pos (congrArg _ h)]
      rfl
    · rw [if_neg h, if_neg fun he => h (Key.string.inj he)]

end Entries

variable {fields : JsonFields} {j : Json} {s : Scope} {c : RequestContext}

lemma selectField_of_get? (h : JsonFields.get? k fields = some j) :
    selectField (.ofJson (.object fields)) k = .ok (.ofJson j) := by
  rw [Value.ofJson, selectField, Entries.find?_ofJsonFields, h]
  rfl

lemma selectField_of_ofHandler?_eq_none (h : JsonFields.get? k fields = none)
    (hf : Function.ofHandler? k = none) :
    selectField (.ofJson (.object fields)) k = .fail (.noSuchKey k) := by
  rw [Value.ofJson, selectField, Entries.find?_ofJsonFields, h, hf]
  rfl

lemma selectField_of_ofHandler? (h : JsonFields.get? k fields = none)
    (hf : (Function.ofHandler? k).isSome) :
    selectField (.ofJson (.object fields)) k =
      .ok (.function k (some (.ofJson (.object fields)))) := by
  rw [Value.ofJson, selectField, Entries.find?_ofJsonFields, h, if_pos hf]
  rfl

lemma eval_bodyField (hs : s.find? "request" = some c.request) (h : c.json = some j) :
    eval s (bodyField k) = selectField (.ofJson j) k := by
  have hrequest : eval ((s.step 0).step 0) (.ident "request") = .ok c.request := by
    have hfind : ((s.step 0).step 0).find? "request" = some c.request := hs
    rw [eval, hfind]
  have hjson : selectField c.request "json" = .ok (.ofJson j) := by
    cases c
    cases h
    rfl
  rw [bodyField, eval, requestField, eval, hrequest]
  dsimp only [bind, Except.bind]
  rw [hjson]

lemma eval_has (e : Term) : eval s (.call "has" [e]) = present (eval (s.step 0) e) := by
  have hhas : Function.ofHandler? "has" = some (.builtin (.form .has)) := by decide
  rw [eval, hhas]

end Expr

namespace RequestContext

variable {r : Request} {j : Json} {now : Int}

lemma build_of_json (hkind : r.bodyKind = .json) (hbody : Json.parseBytes? r.body = some j)
    (hmethod : r.method = "POST") (hpeer : (HostPort.split? r.remoteAddr).isSome) :
    ∃ c, build r now = .ok c := by
  have hread : readBody r.bodyKind r.body = .ok (some j, none) := by
    rw [hkind, readBody, hbody]
  exact build_of_readBody hpeer hmethod (Json.ne_nil_of_parseBytes? hbody) hread

lemma json_of_build {c : RequestContext} (hkind : r.bodyKind = .json)
    (hbody : Json.parseBytes? r.body = some j) (h : build r now = .ok c) : c.json = some j := by
  obtain ⟨-, hread⟩ := body_of_build h
  rw [hkind, readBody, hbody] at hread
  exact (Prod.mk.inj (Except.ok.inj hread)).1.symm

end RequestContext

/-! ### Programs -/

/-- A text compiles in a role, and for a context its program comes to the same in all worlds. -/
def ComesTo (role : Role) (source : String) (c : RequestContext) (out : Eval Value) : Prop :=
  ∃ p, Program.compile role source = .ok p ∧ ∀ worlds, p.evaluate worlds c.origin c.request = out

lemma ComesTo.unique {role : Role} {source : String} {c : RequestContext} {out out' : Eval Value}
    (h : ComesTo role source c out) (h' : ComesTo role source c out') : out = out' := by
  obtain ⟨p, hp, hout⟩ := h
  obtain ⟨q, hq, hout'⟩ := h'
  rw [hp] at hq
  cases hq
  rw [← hout (0 : Int), hout' (0 : Int)]

variable {k : String} {c : RequestContext} {j : Json} {fields : JsonFields}

lemma comesTo_fieldText (hk : IsIdentifier k.toList) (h : c.json = some j) {role : Role}
    (hrole : role ≠ .authorization) :
    ComesTo role (Expr.fieldText k) c (selectField (.ofJson j) k) :=
  ⟨_, Expr.compile_fieldText hk hrole, fun _ => Expr.eval_bodyField rfl h⟩

lemma comesTo_presenceText (hk : IsIdentifier k.toList) (h : c.json = some j) (role : Role) :
    ComesTo role (Expr.presenceText k) c (Expr.present (selectField (.ofJson j) k)) := by
  refine ⟨_, Expr.compile_presenceText hk role, fun worlds => ?_⟩
  rw [Program.evaluate, Expr.eval_has, Expr.eval_bodyField rfl h]

/-- What the programs of a field of the body come to: asking for it, and taking it out. -/
def FieldComesTo (k : String) (c : RequestContext) (presence field : Eval Value) : Prop :=
  (∀ role, ComesTo role (Expr.presenceText k) c presence) ∧
    ∀ role, role ≠ .authorization → ComesTo role (Expr.fieldText k) c field

lemma fieldComesTo_of_selectField {out : Eval Value} (hk : IsIdentifier k.toList)
    (h : c.json = some j) (hout : selectField (.ofJson j) k = out) :
    FieldComesTo k c (Expr.present out) out := by
  subst hout
  exact ⟨comesTo_presenceText hk h, fun _ hrole => comesTo_fieldText hk h hrole⟩

/-- Asking for a field of an object says whether the object has it, and taking it out gives its
value or fails for the missing key. A function of the name takes the place of a field that is not
there. -/
theorem presence_of_field {r : Request} (hkind : r.bodyKind = .json)
    (hbody : Json.parseBytes? r.body = some (.object fields)) (hk : IsIdentifier k.toList)
    (now : Int) :
    (r.method = "POST" → (HostPort.split? r.remoteAddr).isSome →
      ∃ c, RequestContext.build r now = .ok c) ∧
    ∀ c, RequestContext.build r now = .ok c →
      (∀ j, JsonFields.get? k fields = some j →
        FieldComesTo k c (.ok (.bool true)) (.ok (.ofJson j))) ∧
      (JsonFields.get? k fields = none → Function.ofHandler? k = none →
        FieldComesTo k c (.ok (.bool false)) (.fail (.noSuchKey k))) ∧
      (JsonFields.get? k fields = none → (Function.ofHandler? k).isSome →
        FieldComesTo k c (.ok (.bool true))
          (.ok (.function k (some (.ofJson (.object fields)))))) := by
  refine ⟨RequestContext.build_of_json hkind hbody, fun c hc => ?_⟩
  have hjson := RequestContext.json_of_build hkind hbody hc
  refine ⟨fun j hj => ?_, fun hnone hf => ?_, fun hnone hf => ?_⟩
  · exact fieldComesTo_of_selectField hk hjson (Expr.selectField_of_get? hj)
  · exact fieldComesTo_of_selectField hk hjson
      (Expr.selectField_of_ofHandler?_eq_none hnone hf)
  · exact fieldComesTo_of_selectField hk hjson (Expr.selectField_of_ofHandler? hnone hf)

/-- A request that brings a value as JSON. -/
def jsonRequest (j : Json) : Request :=
  ⟨"127.0.0.1:80", "POST", ⟨none, "/", none⟩,
    [("content-type", Utf8.ofString "application/json")], j.bytes⟩

lemma bodyKind_jsonRequest (j : Json) : (jsonRequest j).bodyKind = .json := by
  rw [Request.bodyKind, jsonRequest, firstHeaders, Utf8.decodeLossy_ofString]
  decide +kernel

theorem presence_of_null_field :
    ∃ c, RequestContext.build (jsonRequest (.object [("a", .null)])) 0 = .ok c ∧
      FieldComesTo "a" c (.ok (.bool true)) (.ok .null) ∧
      FieldComesTo "b" c (.ok (.bool false)) (.fail (.noSuchKey "b")) := by
  have hordered : (Json.object [("a", .null)]).Ordered :=
    .object (List.pairwise_singleton _ _) (List.forall_mem_singleton.mpr .null)
  have hkind := bodyKind_jsonRequest (.object [("a", .null)])
  have hbody := Json.parseBytes?_bytes hordered rfl (by decide)
  have ha : IsIdentifier "a".toList := by decide
  have hb : IsIdentifier "b".toList := by decide
  obtain ⟨hbuilds, hpresent⟩ := presence_of_field hkind hbody ha 0
  obtain ⟨-, habsent⟩ := presence_of_field hkind hbody hb 0
  obtain ⟨c, hc⟩ := hbuilds rfl (by decide +kernel)
  exact ⟨c, hc, (hpresent c hc).1 .null rfl, (habsent c hc).2.1 rfl (by decide)⟩

/-- An empty object seems to have a field that has the name of a function. -/
theorem presence_of_function_name :
    ∃ c, RequestContext.build (jsonRequest (.object [])) 0 = .ok c ∧
      IsIdentifier "format".toList ∧ JsonFields.get? "format" [] = none ∧
      (jsonRequest (.object [])).bodyKind = .json ∧
      Json.parseBytes? (jsonRequest (.object [])).body = some (.object []) ∧
      ¬ComesTo .extraction (Expr.presenceText "format") c (.ok (.bool false)) ∧
      ¬ComesTo .extraction (Expr.fieldText "format") c (.fail (.noSuchKey "format")) := by
  have hordered : (Json.object []).Ordered := .object .nil nofun
  have hbody := Json.parseBytes?_bytes hordered rfl (by decide)
  have hkind := bodyKind_jsonRequest (.object [])
  have hk : IsIdentifier "format".toList := by decide
  obtain ⟨c, hc⟩ := RequestContext.build_of_json hkind hbody rfl (by decide +kernel)
  have hselect : selectField (.ofJson (.object [])) "format" =
      .ok (.function "format" (some (.ofJson (.object [])))) :=
    Expr.selectField_of_ofHandler? rfl (by decide)
  obtain ⟨hpresence, hfield⟩ := fieldComesTo_of_selectField hk
    (RequestContext.json_of_build hkind hbody hc) hselect
  refine ⟨c, hc, hk, rfl, hkind, hbody, fun h => ?_, fun h => ?_⟩
  · cases (hpresence .extraction).unique h
  · cases (hfield .extraction nofun).unique h

end GatedRelay
