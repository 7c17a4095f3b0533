import GatedRelay.Proofs.DoubleValues
import GatedRelay.Proofs.Tokens

/-!
# Times of tokens

A token is accepted up to half a second after its end and from half a second before its beginning,
as the seconds of both are rounded. The time of issue is exact as long as doubles hold the clock.
-/

namespace GatedRelay

/-- The number that a JSON number stands for. -/
def Json.number? : Json → Option ℚ
  | .int i => some i.val
  | .double d => some d.val.value
  | _ => none

def JsonFields.number? (name : String) (fields : JsonFields) : Option ℚ :=
  (fields.get? name).bind Json.number?

namespace Jwt

/-! ### End and beginning -/

lemma whole_le_iff (k i : Int) : k ≤ i ↔ (k : ℚ) - 1 / 2 ≤ i := by
  constructor
  · intro h
    have hcast : (k : ℚ) ≤ i := by exact_mod_cast h
    linarith
  · intro h
    by_contra hlt
    have hcast : (i : ℚ) + 1 ≤ k := by exact_mod_cast not_le.mp hlt
    linarith

/-- Seconds are those of a number to the nearest whole one, a half upwards. -/
lemma number_of_seconds? {j : Json} {s : Nat} (h : seconds? j = some s) :
    ∃ x, j.number? = some x ∧ ∀ k : Int, k ≤ s ↔ (k : ℚ) - 1 / 2 ≤ x := by
  unfold seconds? at h
  split at h
  · next i =>
    split_ifs at h with hpos
    cases h
    refine ⟨i.val, rfl, fun k => ?_⟩
    rw [Int.toNat_of_nonneg hpos, whole_le_iff]
  · next d =>
    split_ifs at h with hrange
    cases h
    rw [Bool.and_eq_true, Bool.or_eq_true, Bool.not_eq_true'] at hrange
    have hvalue : 0 ≤ d.val.value := Double.value_nonneg hrange.1
    have hround : 0 ≤ d.val.roundHalfAway := by
      rw [Double.le_roundHalfAway_iff hvalue, Int.cast_zero]
      linarith
    refine ⟨d.val.value, rfl, fun k => ?_⟩
    rw [Int.toNat_of_nonneg hround, Double.le_roundHalfAway_iff hvalue]
  · cases h

/-- A condition on the seconds of a claim is one on its number, where seconds can be read. -/
lemma forall_seconds_iff {claims : JsonFields} {name : String} {P : Nat → Prop} {Q : ℚ → Prop}
    (hread : ∀ j, claims.get? name = some j → ∃ s, seconds? j = some s)
    (hiff : ∀ (s : Nat) (x : ℚ), (∀ k : Int, k ≤ s ↔ (k : ℚ) - 1 / 2 ≤ x) → (P s ↔ Q x)) :
    (∀ j, claims.get? name = some j → ∃ s, seconds? j = some s ∧ P s) ↔
      ∀ x, claims.number? name = some x → Q x := by
  unfold JsonFields.number?
  cases hget : claims.get? name with
  | none => simp
  | some j =>
    obtain ⟨s, hs⟩ := hread j hget
    obtain ⟨x, hx, hround⟩ := number_of_seconds? hs
    simp [hs, hx, hiff s x hround]

lemma InTime.exp_iff {claims : JsonFields} {first : Int} (h : InTime claims first first)
    (now : Int) :
    (∀ j, claims.get? "exp" = some j → ∃ s : Nat, seconds? j = some s ∧ now ≤ s) ↔
      ∀ x, claims.number? "exp" = some x → (now : ℚ) - 1 / 2 ≤ x := by
  refine forall_seconds_iff (fun j hj => ?_) fun s x hround => hround now
  obtain ⟨s, hs, -⟩ := h.exp j hj
  exact ⟨s, hs⟩

lemma InTime.nbf_iff {claims : JsonFields} {first : Int} (h : InTime claims first first)
    (now : Int) :
    (∀ j, claims.get? "nbf" = some j → ∃ s : Nat, seconds? j = some s ∧ s ≤ now) ↔
      ∀ x, claims.number? "nbf" = some x → x < now + 1 / 2 := by
  refine forall_seconds_iff (fun j hj => ?_) fun s x hround => ?_
  · obtain ⟨s, hs, -⟩ := h.nbf j hj
    exact ⟨s, hs⟩
  · have hnext := hround (now + 1)
    have hshift : ((now + 1 : Int) : ℚ) - 1 / 2 = now + 1 / 2 := by
      push_cast
      ring
    rw [hshift] at hnext
    rw [← not_le (b := x), ← hnext]
    omega

/-! ### Issue -/

lemma isNaN_of_double? {j : Json} {d : Double} (h : double? j = some d) : d.isNaN = false := by
  cases j with
  | int i =>
    cases h
    exact Double.isNaN_ofInt i.val
  | double f =>
    cases h
    have hfinite := f.property
    rw [Double.isFinite, bne_iff_ne] at hfinite
    simp [Double.isNaN, hfinite]
  | null | bool b | string s | array items | object fields => cases h

lemma isIssuedAfter_eq_false_iff {claims : JsonFields} {now : Int} :
    isIssuedAfter claims now = false ↔
      ∀ d, (claims.get? "iat").bind double? = some d → d.value ≤ (Double.ofInt now).value := by
  unfold isIssuedAfter
  cases hd : (claims.get? "iat").bind double? with
  | none => simp
  | some d =>
    obtain ⟨j, -, hj⟩ := Option.bind_eq_some_iff.mp hd
    have hcompare := Double.compare?_eq_gt_iff (isNaN_of_double? hj) (Double.isNaN_ofInt now)
    simp [← not_lt, ← hcompare]

/-- Doubles tell whole numbers from the clock as long as they hold the clock itself. -/
lemma forall_double_iff {claims : JsonFields} {name : String} {now : Int}
    (hnow : now.natAbs < 0x20000000000000) :
    (∀ d, (claims.get? name).bind double? = some d → d.value ≤ (Double.ofInt now).value) ↔
      ∀ x, claims.number? name = some x → x ≤ now := by
  rw [Double.value_ofInt hnow, JsonFields.number?]
  cases claims.get? name with
  | none => simp
  | some j =>
    cases j with
    | int i => simp [double?, Json.number?, Double.value_ofInt_le_iff hnow]
    | double d => simp [double?, Json.number?]
    | null | bool b | string s | array items | object fields => simp [double?, Json.number?]

/-! ### Acceptance -/

/-- Of a token that is accepted once, the claims decide at other times. -/
lemma verify_iff_inTime {key : Bytes} {token : List Char} {first : Int} {claims : JsonFields}
    (hv : verify key token first first = .ok claims) (now : Int) :
    verify key token now now = .ok claims ↔ InTime claims now now := by
  obtain ⟨h, header, payload, hf, fields, rfl, hheader, halg, hpayload, haccept⟩ :=
    exists_sign_of_verify hv
  obtain ⟨hreadable, hclaims, -⟩ := acceptFields_eq_ok_iff.mp haccept
  rw [verify_sign hheader halg hpayload, acceptFields_eq_ok_iff]
  exact ⟨fun hnow => hnow.2.2, fun hnow => ⟨hreadable, hclaims, hnow⟩⟩

/-- The times at which a token is accepted. A clock beyond 2^53 is itself rounded to a double. -/
theorem verify_times {key : Bytes} {token : List Char} {first : Int} {claims : JsonFields}
    (hv : verify key token first first = .ok claims) (now : Int) :
    verify key token now now = .ok claims ↔
      (∀ x, claims.number? "exp" = some x → (now : ℚ) - 1 / 2 ≤ x) ∧
      (∀ x, claims.number? "nbf" = some x → x < now + 1 / 2) ∧
      (now.natAbs < 0x20000000000000 → ∀ x, claims.number? "iat" = some x → x ≤ now) ∧
      (0x20000000000000 ≤ now.natAbs → ∀ d, (claims.get? "iat").bind double? = some d →
        d.value ≤ (Double.ofInt now).value) := by
  have hfirst : InTime claims first first := (verify_iff_inTime hv first).mp hv
  have hissue : isIssuedAfter claims now = false ↔
      (now.natAbs < 0x20000000000000 → ∀ x, claims.number? "iat" = some x → x ≤ now) ∧
      (0x20000000000000 ≤ now.natAbs → ∀ d, (claims.get? "iat").bind double? = some d →
        d.value ≤ (Double.ofInt now).value) := by
    rw [isIssuedAfter_eq_false_iff]
    rcases Nat.lt_or_ge now.natAbs 0x20000000000000 with hlt | hge
    · rw [forall_double_iff hlt]
      exact ⟨fun h => ⟨fun _ => h, fun hge => absurd hlt (not_lt.mpr hge)⟩, fun h => h.1 hlt⟩
    · exact ⟨fun h => ⟨fun hlt => absurd hlt (not_lt.mpr hge), fun _ => h⟩, fun h => h.2 hge⟩
  rw [verify_iff_inTime hv, ← hfirst.exp_iff, ← hfirst.nbf_iff, ← hissue]
  exact ⟨fun h => ⟨h.exp, h.nbf, h.iat⟩, fun h => ⟨h.1, h.2.1, h.2.2⟩⟩

lemma verify_hs256 {payload : Bytes} {fields : List (String × Json)}
    (hpayload : decodeFields payload = .ok fields) (key : Bytes) (now : Int) :
    verify key (sign .sha256 key (Utf8.ofString "\x7b\"typ\":\"JWT\",\"alg\":\"HS256\"\x7d")
      payload) now now = acceptFields fields now now :=
  verify_sign decodeFields_hs256 rfl hpayload key now now

theorem verify_times_until :
    let key := Utf8.ofString "k"
    let token := sign .sha256 key (Utf8.ofString "\x7b\"typ\":\"JWT\",\"alg\":\"HS256\"\x7d")
      (Utf8.ofString "\x7b\"exp\":20\x7d")
    let claims : JsonFields := [("exp", .int (.ofByte 20))]
    verify key token 10 10 = .ok claims ∧ verify key token 20 20 = .ok claims ∧
      verify key token 21 21 ≠ .ok claims := by
  intro key token claims
  have hpayload : decodeFields (Utf8.ofString "\x7b\"exp\":20\x7d") =
      .ok [("exp", .int (.ofByte 20))] :=
    decodeFields_of_print (by decide +kernel) (by simp [Json.Ordered.int]) (by decide) (by decide)
  have hv : verify key token 10 10 = .ok claims := by
    rw [verify_hs256 hpayload]
    rfl
  have hexp : claims.number? "exp" = some 20 := rfl
  have hnbf : claims.number? "nbf" = none := rfl
  have hiat : claims.number? "iat" = none := rfl
  refine ⟨hv, (verify_times hv 20).mpr ⟨?_, ?_, ?_, by simp⟩, fun h => ?_⟩
  · norm_num [hexp]
  · simp [hnbf]
  · simp [hiat]
  · have hlate := ((verify_times hv 21).mp h).1 20 hexp
    norm_num at hlate

/-- The number 1699999999.5. -/
def halfSecondBefore : FiniteDouble := ⟨⟨0x41d954fc3fe00000⟩, by decide⟩

lemma parseFields?_halfSecondBefore :
    Json.parseFields? "\x7b\"exp\":1699999999.5\x7d".toList =
      some [("exp", .double halfSecondBefore)] := by
  -- Texts of doubles are read with arithmetic of the machine, so only bits are compared.
  have hbits : (Json.parseFields? "\x7b\"exp\":1699999999.5\x7d".toList).map
      (fun fields => fields.map fun f =>
        (f.1, match f.2 with | .double d => some d.val.bits | _ => none)) =
      some [("exp", some 0x41d954fc3fe00000)] := by decide +kernel
  obtain ⟨fields, hfields, hmap⟩ := Option.map_eq_some_iff.mp hbits
  rw [hfields]
  rcases fields with _ | ⟨⟨name, j⟩, _ | ⟨f, rest⟩⟩
  · cases hmap
  · cases j with
    | double d =>
      obtain ⟨⟨bits⟩, hfinite⟩ := d
      obtain ⟨rfl, rfl⟩ : name = "exp" ∧ bits = 0x41d954fc3fe00000 := by simpa using hmap
      rfl
    | null | bool b | int i | string s | array items | object fields => simp at hmap
  · simp at hmap

lemma value_halfSecondBefore_lt : halfSecondBefore.val.value < 1700000000 := by
  have hkey : halfSecondBefore.val.orderKey < (Double.ofInt 1700000000).orderKey := by
    decide +kernel
  have hlt := Double.value_lt_of_orderKey_lt hkey
  rw [Double.value_ofInt (by decide)] at hlt
  exact_mod_cast hlt

/-- Half a second after its end a token is accepted, and a second before its issue if the clock is
beyond what doubles hold. -/
theorem accepts_outside_times :
    let key := Utf8.ofString "k"
    let header := Utf8.ofString "\x7b\"typ\":\"JWT\",\"alg\":\"HS256\"\x7d"
    let ended := sign .sha256 key header (Utf8.ofString "\x7b\"exp\":1699999999.5\x7d")
    let issued := sign .sha256 key header (Utf8.ofString "\x7b\"iat\":9007199254740993\x7d")
    (∃ claims x, verify key ended 1700000000 1700000000 = .ok claims ∧
      claims.number? "exp" = some x ∧ x < 1700000000) ∧
    ∃ claims, verify key issued 9007199254740992 9007199254740992 = .ok claims ∧
      claims.number? "iat" = some 9007199254740993 := by
  intro key header ended issued
  constructor
  · refine ⟨[("exp", .double halfSecondBefore)], _, ?_, rfl, value_halfSecondBefore_lt⟩
    have hseconds : seconds? (.double halfSecondBefore) = some 1700000000 := by decide +kernel
    rw [verify_hs256 (decodeFields_ofString parseFields?_halfSecondBefore)]
    exact acceptFields_eq_ok_iff.mpr ⟨by decide, rfl, by simp [JsonFields.get?, hseconds],
      by simp [JsonFields.get?], rfl⟩
  · refine ⟨[("iat", .int (.ofUInt64 9007199254740993))], ?_, rfl⟩
    have hpayload : decodeFields (Utf8.ofString "\x7b\"iat\":9007199254740993\x7d") =
        .ok [("iat", .int (.ofUInt64 9007199254740993))] :=
      decodeFields_of_print (by decide +kernel) (by simp [Json.Ordered.int]) (by decide) (by decide)
    have hissue : isIssuedAfter [("iat", .int (.ofUInt64 9007199254740993))] 9007199254740992 =
        false := by decide +kernel
    rw [verify_hs256 hpayload]
    exact acceptFields_eq_ok_iff.mpr ⟨by decide, rfl, by simp [JsonFields.get?],
      by simp [JsonFields.get?], hissue⟩

end Jwt

end GatedRelay
