import GatedRelay.Jwt
import GatedRelay.Proofs.Attempts
import GatedRelay.Proofs.Base64Text
import GatedRelay.Proofs.Encoding
import GatedRelay.Proofs.ObjectTexts

/-!
# Signed tokens

Signing joins header, payload and digest as texts. A token is accepted only if signing with the
key makes it, and then its claims are the object that its payload holds.
-/

namespace GatedRelay.Jwt

open Attempt (bind_eq_ok_iff)

/-! ### Signing -/

/-- The name of a keyed digest in headers. -/
def signingName? : Digest.Hash → Option String
  | .sha1 => none
  | .sha256 => some "HS256"
  | .sha384 => some "HS384"
  | .sha512 => some "HS512"

def encodePart (bs : Bytes) : List Char := Base64.encodeUnpadded .urlSafe bs

/-- The text that a signature covers. -/
def signedText (header payload : Bytes) : List Char :=
  encodePart header ++ '.' :: encodePart payload

def sign (h : Digest.Hash) (key header payload : Bytes) : List Char :=
  signedText header payload ++
    '.' :: encodePart (Digest.hmac h key (Utf8.encode (signedText header payload)))

lemma dot_notMem_encodePart (bs : Bytes) : '.' ∉ encodePart bs :=
  Base64.dot_notMem_encodeUnpadded bs

lemma count_dot_sign (h : Digest.Hash) (key header payload : Bytes) :
    (sign h key header payload).count '.' = 2 := by
  have hnone (bs : Bytes) : (encodePart bs).count '.' = 0 :=
    List.count_eq_zero.mpr (dot_notMem_encodePart bs)
  simp [sign, signedText, hnone]

/-- A token that signing with the key makes from a header that names the digest and a payload that
holds the claims. -/
inductive Authentic (key : Bytes) : List Char → JsonFields → Prop
  | sign {h : Digest.Hash} {name : String} {header payload : Bytes} {fields claims : JsonFields}
    (hname : signingName? h = some name)
    (hheader : Json.parseBytes? header = some (.object fields))
    (halg : fields.get? "alg" = some (.string name))
    (hpayload : Json.parseBytes? payload = some (.object claims)) :
    Authentic key (sign h key header payload) claims

/-! ### Parts -/

lemma parts?_eq_some_iff {token : List Char} {p : Parts} :
    parts? token = some p ↔
      token = p.signed ++ '.' :: p.signature ∧ '.' ∉ p.payload ∧ '.' ∉ p.signature := by
  constructor
  · intro h
    unfold parts? at h
    split at h
    · cases h
    · next message signature hlast =>
      obtain ⟨q, hq, rfl⟩ := Option.map_eq_some_iff.mp h
      obtain ⟨rfl, hsignature⟩ := Text.cutAtLast?_eq_some_iff.mp hlast
      obtain ⟨rfl, hpayload⟩ := Text.cutAtLast?_eq_some_iff.mp hq
      exact ⟨rfl, hpayload, hsignature⟩
  · rintro ⟨rfl, hpayload, hsignature⟩
    have hlast : Text.cutAtLast? '.' (p.signed ++ '.' :: p.signature) =
        some (p.signed, p.signature) :=
      Text.cutAtLast?_eq_some_iff.mpr ⟨rfl, hsignature⟩
    have hfirst : Text.cutAtLast? '.' p.signed = some (p.header, p.payload) :=
      Text.cutAtLast?_eq_some_iff.mpr ⟨rfl, hpayload⟩
    rw [parts?, hlast]
    dsimp only
    rw [hfirst]
    rfl

lemma parts?_sign (h : Digest.Hash) (key header payload : Bytes) :
    parts? (sign h key header payload) =
      some ⟨encodePart header, encodePart payload,
        encodePart (Digest.hmac h key (Utf8.encode (signedText header payload)))⟩ :=
  parts?_eq_some_iff.mpr ⟨rfl, dot_notMem_encodePart _, dot_notMem_encodePart _⟩

lemma decodeBase64_eq_ok_iff {cs : List Char} {bs : Bytes} :
    decodeBase64 cs = .ok bs ↔ cs = encodePart bs := by
  rw [encodePart, ← Base64.decodeUnpadded?_eq_some_iff, decodeBase64]
  cases Base64.decodeUnpadded? .urlSafe cs <;> simp

lemma decodeFields_eq_ok_iff {bs : Bytes} {fs : List (String × Json)} :
    decodeFields bs = .ok fs ↔ (Utf8.decode? bs).bind Json.parseFields? = some fs := by
  rw [decodeFields]
  cases (Utf8.decode? bs).bind Json.parseFields? <;> simp

lemma decodeFields_ofString {s : String} {fs : List (String × Json)}
    (h : Json.parseFields? s.toList = some fs) : decodeFields (Utf8.ofString s) = .ok fs := by
  rw [decodeFields_eq_ok_iff, Utf8.ofString, Utf8.decode?_encode, Option.bind_some, h]

lemma decodeFields_of_print {s : String} {fs : List (String × Json)}
    (htext : s.toList = Json.print (.object fs)) (ho : ∀ f ∈ fs, f.2.Ordered)
    (he : ∀ f ∈ fs, f.2.isExact = true) (hd : ∀ f ∈ fs, f.2.depth ≤ 126) :
    decodeFields (Utf8.ofString s) = .ok fs := by
  apply decodeFields_ofString
  rw [htext, Json.parseFields?_print ho he hd]

/-- The object that bytes hold has the fields that they name. -/
lemma parseBytes?_eq_object_iff {bs : Bytes} {claims : JsonFields} :
    Json.parseBytes? bs = some (.object claims) ↔
      ∃ fs, decodeFields bs = .ok fs ∧ JsonFields.ofList fs = claims := by
  simp only [decodeFields_eq_ok_iff, Json.parseBytes?, Option.bind_eq_some_iff,
    Json.parse?_eq_object_iff]
  constructor
  · rintro ⟨cs, hcs, fs, hfs, hclaims⟩
    exact ⟨fs, ⟨cs, hcs, hfs⟩, hclaims⟩
  · rintro ⟨fs, ⟨cs, hcs, hfs⟩, hclaims⟩
    exact ⟨cs, hcs, fs, hfs, hclaims⟩

/-! ### Headers -/

lemma signingName?_of_algorithm? {name : String} {h : Digest.Hash}
    (hname : algorithm? name = some (.hmac h)) : signingName? h = some name := by
  unfold algorithm? at hname
  split at hname
  · cases hname
    rfl
  · cases hname
    rfl
  · cases hname
    rfl
  · dsimp only at hname
    split_ifs at hname
    cases hname

lemma alg_of_headerAlgorithm? {fields : List (String × Json)} {h : Digest.Hash}
    (hf : headerAlgorithm? fields = some (.hmac h)) :
    ∃ name, signingName? h = some name ∧
      (JsonFields.ofList fields).get? "alg" = some (.string name) := by
  unfold headerAlgorithm? at hf
  split_ifs at hf with hheader
  rw [Bool.and_eq_true, List.all_eq_true, List.all_eq_true] at hheader
  have honce : occursOnce fields "alg" = true := hheader.2 "alg" (by decide)
  split at hf
  · next name halg =>
    refine ⟨name, signingName?_of_algorithm? hf, ?_⟩
    rw [JsonFields.get?_ofList_of_count (of_decide_eq_true honce), halg]
  · cases hf

/-- The fields of a header that says nothing but the type and the digest of its token. -/
def plainHeader (name : String) : List (String × Json) :=
  [("typ", .string "JWT"), ("alg", .string name)]

lemma headerAlgorithm?_plainHeader {name : String} {h : Digest.Hash}
    (hname : signingName? h = some name) {fields : List (String × Json)}
    (hf : fields = plainHeader name ∨ fields = (plainHeader name).reverse) :
    headerAlgorithm? fields = some (.hmac h) := by
  cases h with
  | sha1 => cases hname
  | sha256 | sha384 | sha512 =>
    cases hname
    rcases hf with rfl | rfl <;> rfl

/-! ### Claims -/

/-- The claims of a token allow it: it has not ended by the clock, has begun by the clock, and was
not issued after the given time. -/
structure InTime (claims : JsonFields) (now clock : Int) : Prop where
  exp : ∀ j, claims.get? "exp" = some j → ∃ s : Nat, seconds? j = some s ∧ clock ≤ s
  nbf : ∀ j, claims.get? "nbf" = some j → ∃ s : Nat, seconds? j = some s ∧ s ≤ clock
  iat : isIssuedAfter claims now = false

lemma checkTime_eq_ok_iff {claims : JsonFields} {name : String} {P : Nat → Prop} [DecidablePred P]
    {broken : Error} :
    checkTime claims name (fun s => decide (P s)) broken = .ok () ↔
      ∀ j, claims.get? name = some j → ∃ s, seconds? j = some s ∧ P s := by
  unfold checkTime
  cases claims.get? name with
  | none => simp
  | some j =>
    cases hs : seconds? j with
    | none => simp [hs]
    | some s => simp [hs]

lemma checkSignature_eq_ok_iff {key : Bytes} {p : Parts} :
    checkSignature key p = .ok () ↔
      ∃ header fields h, p.header = encodePart header ∧ decodeFields header = .ok fields ∧
        headerAlgorithm? fields = some (.hmac h) ∧
        p.signature = encodePart (Digest.hmac h key (Utf8.encode p.signed)) := by
  simp only [checkSignature, bind_eq_ok_iff, decodeBase64_eq_ok_iff]
  constructor
  · rintro ⟨header, hheader, fields, hfields, hcheck⟩
    split at hcheck
    · cases hcheck
    · cases hcheck
    · next h halg =>
      obtain ⟨digest, hdigest, hequal⟩ := bind_eq_ok_iff.mp hcheck
      split_ifs at hequal with heq
      refine ⟨header, fields, h, hheader, hfields, halg, ?_⟩
      rw [heq, decodeBase64_eq_ok_iff.mp hdigest]
  · rintro ⟨header, fields, h, hheader, hfields, halg, hsignature⟩
    refine ⟨header, hheader, fields, hfields, ?_⟩
    rw [halg]
    dsimp only
    exact bind_eq_ok_iff.mpr ⟨_, decodeBase64_eq_ok_iff.mpr hsignature, if_pos rfl⟩

/-- What becomes of the fields of a payload once the signature is found right. -/
def acceptFields (fields : List (String × Json)) (now clock : Int) : Except Error JsonFields := do
  let claims := JsonFields.ofList fields
  if !isReadable fields then .error .badJson
  checkTime claims "exp" (fun s => clock ≤ (s : Int)) .expired
  checkTime claims "nbf" (fun s => (s : Int) ≤ clock) .notYetValid
  if isIssuedAfter claims now then .error .issuedLater else .ok claims

lemma acceptFields_of_unreadable {fields : List (String × Json)} (h : isReadable fields = false)
    (now clock : Int) : acceptFields fields now clock = .error .badJson := by
  rw [acceptFields, h]
  rfl

lemma acceptFields_eq_ok_iff {fields : List (String × Json)} {now clock : Int}
    {claims : JsonFields} :
    acceptFields fields now clock = .ok claims ↔
      isReadable fields = true ∧ JsonFields.ofList fields = claims ∧ InTime claims now clock := by
  cases hreadable : isReadable fields with
  | false =>
    rw [acceptFields_of_unreadable hreadable]
    simp
  | true =>
    rw [acceptFields, hreadable]
    dsimp only
    rw [if_neg (by decide)]
    simp only [bind_eq_ok_iff]
    constructor
    · rintro ⟨⟨⟩, hexp, ⟨⟩, hnbf, hend⟩
      split_ifs at hend with hiat
      cases hend
      exact ⟨trivial, rfl, checkTime_eq_ok_iff.mp hexp, checkTime_eq_ok_iff.mp hnbf,
        Bool.eq_false_iff.mpr hiat⟩
    · rintro ⟨-, rfl, hexp, hnbf, hiat⟩
      refine ⟨(), checkTime_eq_ok_iff.mpr hexp, (), checkTime_eq_ok_iff.mpr hnbf, ?_⟩
      rw [hiat]
      rfl

section Sign

variable {h : Digest.Hash} {header payload : Bytes} {hf fields : List (String × Json)}
  (hheader : decodeFields header = .ok hf) (halg : headerAlgorithm? hf = some (.hmac h))
  (hpayload : decodeFields payload = .ok fields)
include hheader halg hpayload

/-- A signed token is accepted as far as its claims allow. -/
lemma verify_sign (key : Bytes) (now clock : Int) :
    verify key (sign h key header payload) now clock = acceptFields fields now clock := by
  have hcheck : checkSignature key ⟨encodePart header, encodePart payload,
      encodePart (Digest.hmac h key (Utf8.encode (signedText header payload)))⟩ = .ok () :=
    checkSignature_eq_ok_iff.mpr ⟨header, hf, h, rfl, hheader, halg, rfl⟩
  rw [verify, parts?_sign]
  dsimp only
  rw [hcheck, decodeBase64_eq_ok_iff.mpr rfl]
  change decodeFields payload >>= (fun fields => acceptFields fields now clock) = _
  rw [hpayload]
  rfl

end Sign

/-- What is accepted was signed. -/
lemma exists_sign_of_verify {key : Bytes} {token : List Char} {now clock : Int}
    {claims : JsonFields} (hv : verify key token now clock = .ok claims) :
    ∃ h header payload hf fields, token = sign h key header payload ∧
      decodeFields header = .ok hf ∧ headerAlgorithm? hf = some (.hmac h) ∧
      decodeFields payload = .ok fields ∧ acceptFields fields now clock = .ok claims := by
  unfold verify at hv
  split at hv
  · cases hv
  · next p hp =>
    obtain ⟨⟨⟩, hcheck, hv⟩ := bind_eq_ok_iff.mp hv
    obtain ⟨payload, hpayload, hv⟩ := bind_eq_ok_iff.mp hv
    obtain ⟨fields, hfields, hclaims⟩ := bind_eq_ok_iff.mp hv
    obtain ⟨header, hf, h, hheader, hhf, halg, hsignature⟩ := checkSignature_eq_ok_iff.mp hcheck
    obtain ⟨htoken, -, -⟩ := parts?_eq_some_iff.mp hp
    have hsigned : p.signed = signedText header payload := by
      rw [Parts.signed, hheader, decodeBase64_eq_ok_iff.mp hpayload, signedText]
    refine ⟨h, header, payload, hf, fields, ?_, hhf, halg, hfields, hclaims⟩
    rw [htoken, hsignature, hsigned, sign]

/-! ### Authenticity -/

/-- The issuer, the subject and the audience are named at most once, and the subject is no list or
object. -/
structure NamesParties (fields : List (String × Json)) : Prop where
  once : ∀ name ∈ ["sub", "iss", "aud"], fields.countP (fun f => f.1 == name) ≤ 1
  subject : ∀ f ∈ fields, f.1 = "sub" → isContainer f.2 = false

lemma occursOnce_of_forall_ne {fields : List (String × Json)} {name : String}
    (h : ∀ f ∈ fields, f.1 ≠ name) : occursOnce fields name = true := by
  have hcount : fields.countP (fun f => f.1 == name) = 0 := by
    rw [List.countP_eq_zero]
    simpa using h
  rw [occursOnce, hcount]
  rfl

lemma isReadable_iff_namesParties {fields : List (String × Json)}
    (hexp : ∀ f ∈ fields, f.1 ≠ "exp") (hnbf : ∀ f ∈ fields, f.1 ≠ "nbf") :
    isReadable fields = true ↔ NamesParties fields := by
  have honce : ["exp", "nbf", "sub", "iss", "aud"].all (occursOnce fields) = true ↔
      ∀ name ∈ ["sub", "iss", "aud"], fields.countP (fun f => f.1 == name) ≤ 1 := by
    rw [List.all_cons, List.all_cons, occursOnce_of_forall_ne hexp, occursOnce_of_forall_ne hnbf,
      Bool.true_and, Bool.true_and, List.all_eq_true]
    simp only [occursOnce, decide_eq_true_eq]
  rw [isReadable, Bool.and_eq_true, honce, List.all_eq_true]
  constructor
  · rintro ⟨hcount, hvalues⟩
    refine ⟨hcount, fun f hf hsub => ?_⟩
    have hvalue := hvalues f hf
    rw [if_neg (not_or.mpr ⟨hexp f hf, hnbf f hf⟩), if_pos hsub] at hvalue
    simpa using hvalue
  · rintro ⟨hcount, hsubject⟩
    refine ⟨hcount, fun f hf => ?_⟩
    rw [if_neg (not_or.mpr ⟨hexp f hf, hnbf f hf⟩)]
    by_cases hsub : f.1 = "sub"
    · rw [if_pos hsub, hsubject f hf hsub]
      rfl
    · rw [if_neg hsub]

lemma inTime_of_no_times {claims : JsonFields} (hexp : claims.get? "exp" = none)
    (hnbf : claims.get? "nbf" = none) (hiat : claims.get? "iat" = none) (now clock : Int) :
    InTime claims now clock where
  exp := by simp [hexp]
  nbf := by simp [hnbf]
  iat := by simp [isIssuedAfter, hiat]

lemma authentic_of_verify {key : Bytes} {token : List Char} {now clock : Int} {claims : JsonFields}
    (hv : verify key token now clock = .ok claims) : Authentic key token claims := by
  obtain ⟨h, header, payload, hf, fields, rfl, hhf, halg, hfields, haccept⟩ :=
    exists_sign_of_verify hv
  obtain ⟨name, hname, hget⟩ := alg_of_headerAlgorithm? halg
  obtain ⟨-, hclaims, -⟩ := acceptFields_eq_ok_iff.mp haccept
  exact .sign hname (parseBytes?_eq_object_iff.mpr ⟨hf, hhf, rfl⟩) hget
    (parseBytes?_eq_object_iff.mpr ⟨fields, hfields, hclaims⟩)

/-- Accepted are only tokens that were signed with the key, and the claims are those of the payload.
A signed token that says nothing about times is accepted if and only if it names its parties
properly. -/
theorem verify_authentic (key : Bytes) :
    (∀ token now clock claims, verify key token now clock = .ok claims →
      Authentic key token claims ∧ token.count '.' = 2) ∧
    (∀ h name header payload hf fields now clock, signingName? h = some name →
      decodeFields header = .ok hf → hf = plainHeader name ∨ hf = (plainHeader name).reverse →
      decodeFields payload = .ok fields →
      (∀ time ∈ ["exp", "nbf", "iat"], (JsonFields.ofList fields).get? time = none) →
      (verify key (sign h key header payload) now clock = .ok (JsonFields.ofList fields) ↔
        NamesParties fields)) ∧
    ∀ token now clock,
      (∃ claims, verify key token now clock = .ok claims ∧ Authentic key token claims) ∨
        ∃ e, verify key token now clock = .error e := by
  refine ⟨fun token now clock claims hv => ⟨authentic_of_verify hv, ?_⟩, ?_, ?_⟩
  · obtain ⟨h, header, payload, hf, fields, rfl, -⟩ := exists_sign_of_verify hv
    exact count_dot_sign h key header payload
  · intro h name header payload hf fields now clock hname hheader hplain hpayload htimes
    have hexp := htimes "exp" (by decide)
    have hnbf := htimes "nbf" (by decide)
    have hiat := htimes "iat" (by decide)
    have halg : headerAlgorithm? hf = some (.hmac h) := headerAlgorithm?_plainHeader hname hplain
    rw [verify_sign hheader halg hpayload, acceptFields_eq_ok_iff,
      isReadable_iff_namesParties (JsonFields.get?_ofList_eq_none_iff.mp hexp)
        (JsonFields.get?_ofList_eq_none_iff.mp hnbf)]
    exact ⟨fun haccept => haccept.1,
      fun hparties => ⟨hparties, rfl, inTime_of_no_times hexp hnbf hiat now clock⟩⟩
  · intro token now clock
    cases hv : verify key token now clock with
    | ok claims => exact .inl ⟨claims, rfl, authentic_of_verify hv⟩
    | error e => exact .inr ⟨e, rfl⟩

lemma decodeFields_hs256 :
    decodeFields (Utf8.ofString "\x7b\"typ\":\"JWT\",\"alg\":\"HS256\"\x7d") =
      .ok (plainHeader "HS256") :=
  decodeFields_of_print (by decide +kernel) (by simp [plainHeader, Json.Ordered.string])
    (by decide) (by decide)

theorem verify_authentic_object :
    let key := Utf8.ofString "k"
    let header := Utf8.ofString "\x7b\"typ\":\"JWT\",\"alg\":\"HS256\"\x7d"
    let payload := Utf8.ofString "\x7b\"sub\":\"a\",\"roles\":[1]\x7d"
    let claims : JsonFields := [("roles", .array [.int (.ofByte 1)]), ("sub", .string "a")]
    let token := sign .sha256 key header payload
    verify key token 1700000000 1700000000 = .ok claims ∧ Authentic key token claims ∧
      token.count '.' = 2 := by
  intro key header payload claims token
  have hpayload : decodeFields payload =
      .ok [("sub", .string "a"), ("roles", .array [.int (.ofByte 1)])] :=
    decodeFields_of_print (by decide +kernel)
      (by simp [Json.Ordered.string, Json.Ordered.array, Json.Ordered.int]) (by decide) (by decide)
  have hparties : NamesParties [("sub", .string "a"), ("roles", .array [.int (.ofByte 1)])] :=
    ⟨by decide, by simp [isContainer]⟩
  obtain ⟨hsound, hcomplete, -⟩ := verify_authentic key
  have hv : verify key token 1700000000 1700000000 = .ok claims :=
    (hcomplete .sha256 "HS256" header payload _ _ 1700000000 1700000000 rfl decodeFields_hs256
      (.inl rfl) hpayload (by decide)).mpr hparties
  obtain ⟨hauthentic, hdots⟩ := hsound _ _ _ _ hv
  exact ⟨hv, hauthentic, hdots⟩

/-- A subject that is a list keeps a signed token without times from being accepted. -/
theorem refuses_list_subject :
    let key := Utf8.ofString "k"
    let header := Utf8.ofString "\x7b\"typ\":\"JWT\",\"alg\":\"HS256\"\x7d"
    let payload := Utf8.ofString "\x7b\"sub\":[\"a\"]\x7d"
    let token := sign .sha256 key header payload
    Authentic key token [("sub", .array [.string "a"])] ∧
      verify key token 1700000000 1700000000 = .error .badJson := by
  intro key header payload token
  have hpayload : decodeFields payload = .ok [("sub", .array [.string "a"])] :=
    decodeFields_of_print (by decide +kernel)
      (by simp [Json.Ordered.string, Json.Ordered.array]) (by decide) (by decide)
  constructor
  · exact .sign rfl (parseBytes?_eq_object_iff.mpr ⟨_, decodeFields_hs256, rfl⟩) rfl
      (parseBytes?_eq_object_iff.mpr ⟨_, hpayload, rfl⟩)
  · rw [verify_sign decodeFields_hs256 rfl hpayload]
    exact acceptFields_of_unreadable (by decide) 1700000000 1700000000

end GatedRelay.Jwt
