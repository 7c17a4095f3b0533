import GatedRelay.Proofs.TypeSoundness

/-!
# What a program that authorizes decides

Its type is `bool`, but `||` hands on the value of an operand, of whatever kind that is. So the
decision is a bool unless an operand is handed on that is none.
-/

namespace GatedRelay.Expr

open Attempt

lemma type_eq_bool_iff {v : Value} : v.type = .bool ↔ ∃ b, v = .bool b := by
  cases v <;> simp [Value.type]

lemma arithmeticType_ne_bool (op : Arithmetic) (l r : Ty) : arithmeticType op l r ≠ .bool := by
  cases l <;> cases r <;> cases op <;> decide

/-- A value that is no bool comes to an expression from an operand of `||`: it is the left one if
that counts as true, and else the right one. -/
inductive HandsOn : Scope → Term → Value → Prop
  | left {s : Scope} {l r : Term} {v : Value} (hl : eval (s.step 0) l = .ok v)
      (ht : v.isTruthy = true) (hb : v.type ≠ .bool) : HandsOn s (.disj l r) v
  | right {s : Scope} {l r : Term} {a v : Value} (hl : eval (s.step 0) l = .ok a)
      (ht : a.isTruthy = false) (hr : eval (s.step 1) r = .ok v) (hb : v.type ≠ .bool) :
      HandsOn s (.disj l r) v
  | chosen {s : Scope} {c t e : Term} {b v : Value} (hc : eval (s.step 0) c = .ok b)
      (ht : b.isTruthy = true) (h : HandsOn (s.step 1) t v) : HandsOn s (.ternary c t e) v
  | otherwise {s : Scope} {c t e : Term} {b v : Value} (hc : eval (s.step 0) c = .ok b)
      (ht : b.isTruthy = false) (h : HandsOn (s.step 2) e v) : HandsOn s (.ternary c t e) v

lemma HandsOn.type_ne_bool {s : Scope} {e : Term} {v : Value} (h : HandsOn s e v) :
    v.type ≠ .bool := by
  induction h with
  | left _ _ hb => exact hb
  | right _ _ _ hb => exact hb
  | chosen _ _ _ ih => exact ih
  | otherwise _ _ _ ih => exact ih

lemma HandsOn.of_disj {s : Scope} {l r : Term} {v : Value} (h : eval s (.disj l r) = .ok v)
    (hb : v.type ≠ .bool) : HandsOn s (.disj l r) v := by
  obtain ⟨a, ha, h⟩ := bind_eq_ok_iff.mp h
  split at h
  · next ht =>
    cases h
    exact .left ha ht hb
  · next ht => exact .right ha (Bool.eq_false_iff.mpr ht) h hb

/-- The type of a choice is `bool` if both branches have it. -/
lemma join_eq_bool {a b : Ty} (h : a.join b = .bool) : a = .bool ∧ b = .bool := by
  unfold Ty.join at h
  split at h
  · next hab => exact ⟨h, hab ▸ h⟩
  · cases h

lemma type_bool_or_handsOn {e : Term} {s : Scope} {bound : List String} {v : Value}
    (ht : (infer bound e).1 = .bool) (h : eval s e = .ok v) : v.type = .bool ∨ HandsOn s e v := by
  induction e generalizing s v with
  | literal a =>
    cases a <;> cases ht
    cases h
    exact .inl rfl
  | ident name => cases ht
  | relation op l r ihl ihr =>
    obtain ⟨a, -, h⟩ := bind_eq_ok_iff.mp h
    obtain ⟨b, -, h⟩ := bind_eq_ok_iff.mp h
    exact .inl (Value.relation_type h)
  | arithmetic op l r ihl ihr => exact (arithmeticType_ne_bool _ _ _ ht).elim
  | conj l r ihl ihr =>
    obtain ⟨a, -, h⟩ := bind_eq_ok_iff.mp h
    obtain ⟨b, -, h⟩ := bind_eq_ok_iff.mp h
    cases h
    exact .inl rfl
  | disj l r ihl ihr =>
    by_cases hb : v.type = .bool
    · exact .inl hb
    · exact .inr (.of_disj h hb)
  | unary op e ih =>
    obtain ⟨a, -, h⟩ := bind_eq_ok_iff.mp h
    cases op with
    | not =>
      cases h
      exact .inl rfl
    | notNot =>
      cases h
      exact .inl rfl
    | minus =>
      exfalso
      cases hi : (infer bound e).1 <;> simp [infer, unaryType, hi, Ty.isNumeric] at ht
    | minusMinus =>
      exfalso
      cases hi : (infer bound e).1 <;> simp [infer, unaryType, hi, Ty.isNumeric] at ht
  | ternary c t e ihc iht ihe =>
    obtain ⟨htt, hte⟩ := join_eq_bool ht
    obtain ⟨b, hc, h⟩ := bind_eq_ok_iff.mp h
    split at h
    · next hb => exact (iht htt h).imp_right (.chosen hc hb)
    · next hb => exact (ihe hte h).imp_right (.otherwise hc (Bool.eq_false_iff.mpr hb))
  | list items ih => cases ht
  | map entries ih => cases ht
  | select target name ih => cases ht
  | index target i iht ihi => cases ht
  | fields target entries iht ihe => cases ht
  | call name args ih =>
    have hv : v.OfType (infer bound (.call name args)).1 := call_ofType h
    rw [ht] at hv
    exact .inl (hv (by decide))
  | method target name args iht ih =>
    have hv : v.OfType (infer bound (.method target name args)).1 := method_ofType h
    rw [ht] at hv
    exact .inl (hv (by decide))

lemma infer_authorization {source : String} {p : Program}
    (hp : Program.compile .authorization source = .ok p) : (infer [] p.body).1 = .bool := by
  obtain ⟨hc, -, -, ht⟩ := Program.compile_eq_ok_iff.mp hp
  obtain ⟨-, hi⟩ := compile_eq_ok_iff.mp hc
  rw [hi, ht rfl]

/-- A program that authorizes decides with a bool, except where it hands on an operand of `||` that
is none. -/
theorem authorization_bool_iff {source : String} {p : Program} {worlds : Role → World}
    {origin request v : Value} (hp : Program.compile .authorization source = .ok p)
    (hv : p.evaluate worlds origin request = .ok v) :
    (∃ b, v = .bool b) ↔ ¬HandsOn (Scope.root (worlds p.role) origin request) p.body v := by
  rw [← type_eq_bool_iff]
  constructor
  · intro hb hh
    exact hh.type_ne_bool hb
  · intro hh
    exact (type_bool_or_handsOn (infer_authorization hp) hv).resolve_right hh

/-- The tree of `1 || true`. -/
def oneOrTrue : Term := .disj (.literal (.int 1)) (.literal (.bool true))

lemma compile_oneOrTrue :
    Program.compile .authorization "1 || true" =
      .ok ⟨.authorization, "1 || true", oneOrTrue, .bool⟩ := by
  have htokens : Token.ofText "1 || true".toList = [.int ['1'], .symbol .orOr, .trueWord] := by
    decide +kernel
  rw [Program.compile_eq_ok_iff, compile_eq_ok_iff, read_eq_parsed_iff, htokens]
  exact ⟨⟨⟨rfl, by decide +kernel⟩, rfl⟩, rfl, rfl, fun _ => rfl⟩

theorem authorization_bool_iff_oneOrTrue :
    let p : Program := ⟨.authorization, "1 || true", oneOrTrue, .bool⟩
    p.evaluate (0 : Int) .null .null = .ok (.int 1) ∧
      ((∃ b, Value.int 1 = .bool b) ↔
        ¬HandsOn (Scope.root (0 : Int) .null .null) oneOrTrue (.int 1)) := by
  intro p
  have hv : p.evaluate (0 : Int) .null .null = .ok (.int 1) := by rfl
  exact ⟨hv, authorization_bool_iff compile_oneOrTrue hv⟩

/-- A program that authorizes can decide with a number. -/
theorem authorization_decides_with_number :
    ∃ p, Program.compile .authorization "1 || true" = .ok p ∧
      p.evaluate (0 : Int) .null .null = .ok (.int 1) ∧ ¬∃ b, Value.int 1 = .bool b := by
  refine ⟨_, compile_oneOrTrue, by rfl, ?_⟩
  rintro ⟨b, hb⟩
  cases hb

/-- Whether the operands of each `||` whose value can be that of the whole have type `bool`. -/
def handsOnBools (bound : List String) : Term → Bool
  | .disj l r =>
    (infer bound l).1 == .bool && (infer bound r).1 == .bool && handsOnBools bound l &&
      handsOnBools bound r
  | .ternary _ t e => handsOnBools bound t && handsOnBools bound e
  | _ => true

lemma type_bool_of_handsOnBools {e : Term} {s : Scope} {bound : List String} {v : Value}
    (hd : handsOnBools bound e = true) (ht : (infer bound e).1 = .bool) (h : eval s e = .ok v) :
    v.type = .bool := by
  induction e generalizing s v with
  | disj l r ihl ihr =>
    obtain ⟨a, ha, h⟩ := bind_eq_ok_iff.mp h
    simp only [handsOnBools, Bool.and_eq_true, beq_iff_eq] at hd
    obtain ⟨⟨⟨hl, hr⟩, hdl⟩, hdr⟩ := hd
    split at h
    · cases h
      exact ihl hdl hl ha
    · exact ihr hdr hr h
  | ternary c t e ihc iht ihe =>
    obtain ⟨htt, hte⟩ := join_eq_bool ht
    obtain ⟨b, -, h⟩ := bind_eq_ok_iff.mp h
    rw [handsOnBools, Bool.and_eq_true] at hd
    split at h
    · exact iht hd.1 htt h
    · exact ihe hd.2 hte h
  | _ => exact (type_bool_or_handsOn ht h).resolve_right nofun

/-- Where the operands that can be handed on have type `bool`, a program that authorizes always
decides with a bool. -/
theorem authorization_bool {source : String} {p : Program} {worlds : Role → World}
    {origin request v : Value} (hp : Program.compile .authorization source = .ok p)
    (hd : handsOnBools [] p.body = true) (hv : p.evaluate worlds origin request = .ok v) :
    ∃ b, v = .bool b := by
  rw [← type_eq_bool_iff]
  exact type_bool_of_handsOnBools hd (infer_authorization hp) hv

end GatedRelay.Expr
