import GatedRelay.Json.Parser
import GatedRelay.Digest.Hmac
import GatedRelay.Text.Base64
import GatedRelay.Text.Search

/-!
Signed tokens: a header, a payload and a keyed digest of both, as base64 text joined by points.
A token is accepted only with the right digest, and only at times that its claims allow.
-/

namespace GatedRelay.Jwt

inductive Error
  | malformed
  | badBase64
  | badJson
  | wrongAlgorithm
  | wrongSignature
  | badClaim (name : String)
  | expired
  | notYetValid
  | issuedLater
  deriving DecidableEq

def Error.message : Error → String
  | malformed => "InvalidToken"
  | badBase64 => "Base64 error: *"
  | badJson => "JSON error: *"
  | wrongAlgorithm => "InvalidAlgorithm"
  | wrongSignature => "InvalidSignature"
  | badClaim name => s!"Invalid format for claim: {name}"
  | expired => "ExpiredSignature"
  | notYetValid => "ImmatureSignature"
  | issuedLater => "token used before issued"

/-- A keyed digest, or a known kind of signature that is none. -/
inductive Algorithm
  | hmac (h : Digest.Hash)
  | other
  deriving DecidableEq

def algorithm? (name : String) : Option Algorithm :=
  match name with
  | "HS256" => some (.hmac .sha256)
  | "HS384" => some (.hmac .sha384)
  | "HS512" => some (.hmac .sha512)
  | _ =>
    let others :=
      ["RS256", "RS384", "RS512", "PS256", "PS384", "PS512", "ES256", "ES384", "EdDSA"]
    if others.contains name then some .other else none

def textFields : List String :=
  ["typ", "cty", "jku", "kid", "x5u", "x5t", "x5t#S256", "url", "nonce", "enc", "zip"]

def textListFields : List String := ["x5c", "crit"]

def isText : Json → Bool
  | .string _ => true
  | _ => false

def isTextList : Json → Bool
  | .array items => items.all isText
  | _ => false

/-- The curves that the points of a key can lie on. -/
def curves : List String := ["P-256", "P-384", "P-521", "Ed25519"]

/-- Whether a value is a key: a known kind with the texts that it needs, and nothing of a wrong type
among what any key may have. -/
def isKey : Json → Bool
  | .object fields =>
    let text (name : String) : Bool := (JsonFields.get? name fields).any isText
    let optional (holds : Json → Bool) (name : String) : Bool :=
      (JsonFields.get? name fields).all fun j => j.isNull || holds j
    let onCurve : Bool :=
      match JsonFields.get? "crv" fields with
      | some (.string c) => curves.contains c
      | _ => false
    let complete : Bool :=
      match JsonFields.get? "kty" fields with
      | some (.string "oct") => text "k"
      | some (.string "RSA") => text "n" && text "e"
      | some (.string "EC") => onCurve && text "x" && text "y"
      | some (.string "OKP") => onCurve && text "x"
      | _ => false
    complete && ["use", "alg", "kid", "x5u", "x5t", "x5t#S256"].all (optional isText) &&
      ["key_ops", "x5c"].all (optional isTextList)
  | _ => false

/-- Whether a field may stand in a header with its value. -/
def isHeaderField (f : String × Json) : Bool :=
  if f.1 = "alg" then true
  else if textFields.contains f.1 then isText f.2 || f.2.isNull
  else if textListFields.contains f.1 then isTextList f.2 || f.2.isNull
  else if f.1 = "jwk" then isKey f.2 || f.2.isNull
  else isText f.2

def occursOnce (fields : List (String × Json)) (name : String) : Bool :=
  decide (fields.countP (fun f => f.1 == name) ≤ 1)

/-- The algorithm that the fields of a header name, if they make up a header. -/
def headerAlgorithm? (fields : List (String × Json)) : Option Algorithm :=
  if fields.all isHeaderField &&
      ("alg" :: "jwk" :: textFields ++ textListFields).all (occursOnce fields) then
    match JsonFields.get? "alg" fields with
    | some (.string name) => algorithm? name
    | _ => none
  else none

/-- Lists and objects with something in them. -/
def isFilled : Json → Bool
  | .array items => !items.isEmpty
  | .object fields => !fields.isEmpty
  | _ => false

def isContainer : Json → Bool
  | .array _ | .object _ => true
  | _ => false

/-- Whether the registered claims can be read at all. -/
def isReadable (fields : List (String × Json)) : Bool :=
  ["exp", "nbf", "sub", "iss", "aud"].all (occursOnce fields) &&
    fields.all fun f =>
      if f.1 = "exp" ∨ f.1 = "nbf" then !isFilled f.2
      else if f.1 = "sub" then !isContainer f.2
      else true

/-- The seconds of a time claim: a number that is not negative, to the nearest whole one. -/
def seconds? : Json → Option Nat
  | .int i => if 0 ≤ i.val then some i.val.toNat else none
  | .double d =>
    if (!d.val.isNegative || d.val.isZero) && decide (d.val.truncate < 0x10000000000000000) then
      some d.val.roundHalfAway.toNat
    else none
  | _ => none

/-- Checks a time claim if there is one. -/
def checkTime (claims : JsonFields) (name : String) (holds : Nat → Bool) (broken : Error) :
    Except Error Unit :=
  match claims.get? name with
  | none => .ok ()
  | some j =>
    match seconds? j with
    | none => .error (.badClaim name)
    | some s => if holds s then .ok () else .error broken

/-- The value of a number as a double. -/
def double? : Json → Option Double
  | .int i => some (.ofInt i.val)
  | .double d => some d.val
  | _ => none

/-- Whether the claims say that the token was issued after a time. -/
def isIssuedAfter (claims : JsonFields) (now : Int) : Bool :=
  match (claims.get? "iat").bind double? with
  | some d => Double.compare? d (.ofInt now) == some .gt
  | none => false

/-- Header, payload and signature, and the text that is signed. -/
structure Parts where
  header : List Char
  payload : List Char
  signature : List Char

def Parts.signed (p : Parts) : List Char := p.header ++ '.' :: p.payload

/-- Cuts a token at its last two points. -/
def parts? (token : List Char) : Option Parts :=
  match Text.cutAtLast? '.' token with
  | none => none
  | some (message, signature) =>
    (Text.cutAtLast? '.' message).map fun p => ⟨p.1, p.2, signature⟩

def decodeBase64 (cs : List Char) : Except Error Bytes :=
  match Base64.decodeUnpadded? .urlSafe cs with
  | some bs => .ok bs
  | none => .error .badBase64

def decodeFields (bs : Bytes) : Except Error (List (String × Json)) :=
  match (Utf8.decode? bs).bind Json.parseFields? with
  | some fs => .ok fs
  | none => .error .badJson

/-- The digest of a token whose algorithm its header names. -/
def checkSignature (key : Bytes) (p : Parts) : Except Error Unit := do
  let header ← decodeFields (← decodeBase64 p.header)
  match headerAlgorithm? header with
  | none => .error .badJson
  | some .other => .error .wrongAlgorithm
  | some (.hmac h) =>
    let signature ← decodeBase64 p.signature
    if Digest.hmac h key (Utf8.encode p.signed) = signature then .ok () else .error .wrongSignature

/-- The claims of a token that is signed with the key. The clock decides about expiry, `now`
about the time of issue; there is no leeway. -/
def verify (key : Bytes) (token : List Char) (now clock : Int) : Except Error JsonFields := do
  match parts? token with
  | none => .error .malformed
  | some p =>
    checkSignature key p
    let fields ← decodeFields (← decodeBase64 p.payload)
    let claims := JsonFields.ofList fields
    if !isReadable fields then .error .badJson
    checkTime claims "exp" (fun s => clock ≤ (s : Int)) .expired
    checkTime claims "nbf" (fun s => (s : Int) ≤ clock) .notYetValid
    if isIssuedAfter claims now then .error .issuedLater else .ok claims

end GatedRelay.Jwt
