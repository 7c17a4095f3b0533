import GatedRelay.Number.Render
import GatedRelay.Proofs.DecimalTexts
import GatedRelay.Proofs.JsonText
import GatedRelay.Proofs.ShortestDecimals

/-!
# The texts of doubles in JSON

A double is written as its shortest decimal, around a point or with an exponent, and is known again
from that text. No text of a double is that of a whole number.
-/

namespace GatedRelay

open Numeral

namespace Numeral

/-! ### Decimals with a point or an exponent -/

def exponentText : Option Int → List Char
  | none => []
  | some e => 'e' :: (if e < 0 then [] else ['+']) ++ decimalInt e

/-- The text of a number that has a point, an exponent or both. -/
def WritesDecimal (q : ℚ) (text : List Char) : Prop :=
  ∃ (whole fraction : List Nat) (exponent : Option Int),
    (∀ d ∈ whole, d < 10) ∧ (∀ d ∈ fraction, d < 10) ∧ whole ≠ [] ∧
    (fraction ≠ [] ∨ exponent ≠ none) ∧ q = scaledValue whole fraction (exponent.getD 0) ∧
    text = digitText whole ++ (fractionText fraction ++ exponentText exponent)

section Following

variable {rest : List Char} (hr : Json.Follows rest)
include hr

lemma endsDigits_of_follows : EndsDigits rest := by
  cases hr with
  | nil => intro c hc; cases hc
  | comma rest => exact .of_cons rfl rest
  | bracket rest => exact .of_cons rfl rest
  | brace rest => exact .of_cons rfl rest

lemma exponentPart?_signed (negative : Bool) (n : Nat) :
    Json.exponentPart? ('e' :: (if negative then '-' else '+') :: (decimal n ++ rest)) =
      some (some (if negative then -(n : Int) else n), rest) := by
  have hrun := Json.digitRun_decimal n hr
  have hne : (digits 10 (by decide) n).isEmpty = false := by
    rw [List.isEmpty_eq_false_iff]
    exact digits_ne_nil n
  have hvalue : (digits 10 (by decide) n).foldl (fun acc d => acc * 10 + d) 0 = n :=
    valueFrom_digits (by decide) n
  cases negative <;>
  · simp only [Json.exponentPart?, true_or, if_true, Bool.false_eq_true, if_false]
    rw [hrun]
    dsimp only
    rw [hne, if_neg Bool.false_ne_true, hvalue]

lemma exponentPart?_exponentText (e : Option Int) :
    Json.exponentPart? (exponentText e ++ rest) = some (e, rest) := by
  cases e with
  | none => cases hr <;> rfl
  | some e =>
    have hread := exponentPart?_signed hr (decide (e < 0)) e.natAbs
    rw [exponentText, decimalInt]
    by_cases hneg : e < 0
    · have habs : -(e.natAbs : Int) = e := by omega
      rw [decide_eq_true hneg, if_pos rfl, if_pos rfl, habs] at hread
      rw [if_pos hneg, if_pos hneg]
      exact hread
    · have habs : (e.natAbs : Int) = e := by omega
      rw [decide_eq_false hneg, if_neg Bool.false_ne_true, if_neg Bool.false_ne_true, habs] at hread
      rw [if_neg hneg, if_neg hneg]
      exact hread

lemma endsDigits_exponentText (e : Option Int) : EndsDigits (exponentText e ++ rest) := by
  cases e with
  | none => exact endsDigits_of_follows hr
  | some e => exact .of_cons rfl _

lemma head?_exponentText (e : Option Int) : (exponentText e ++ rest).head? ≠ some '.' := by
  cases e with
  | none => cases hr <;> rintro ⟨⟩
  | some e => rintro ⟨⟩

/-- The number is read back from its text. -/
lemma WritesDecimal.unsignedAt? {q : ℚ} {text : List Char} (h : WritesDecimal q text) :
    Numeral.unsignedAt? (text ++ rest) = some (q, rest) := by
  obtain ⟨whole, fraction, e, hwhole, hfraction, -, -, rfl, rfl⟩ := h
  rw [List.append_assoc, List.append_assoc]
  exact unsignedAt?_text hwhole hfraction (endsDigits_exponentText hr e) (head?_exponentText hr e)
    (exponentPart?_exponentText hr e)

/-- Its digits are followed by a point or an exponent. -/
lemma WritesDecimal.not_follows {q : ℚ} {text : List Char} (h : WritesDecimal q text) :
    ¬Json.Follows (Json.digitRun (text ++ rest)).2 := by
  obtain ⟨whole, fraction, e, hwhole, hfraction, -, hparts, rfl, rfl⟩ := h
  rw [List.append_assoc, List.append_assoc, fractionText]
  split_ifs with hnone
  · obtain ⟨e, rfl⟩ := Option.ne_none_iff_exists'.mp (hparts.resolve_left (not_not.mpr hnone))
    rw [List.nil_append, digitRun_digitText hwhole (endsDigits_exponentText hr _)]
    rintro ⟨⟩
  · rw [List.cons_append, digitRun_digitText hwhole (.of_cons rfl _)]
    rintro ⟨⟩

end Following

lemma WritesDecimal.exists_cons {q : ℚ} {text : List Char} (h : WritesDecimal q text) :
    ∃ c cs, text = c :: cs ∧ isDigit c = true := by
  obtain ⟨whole, fraction, e, hwhole, -, hne, -, -, rfl⟩ := h
  obtain ⟨d, ds, rfl⟩ := List.exists_cons_of_ne_nil hne
  exact ⟨_, _, rfl, digitChar_isDigit (hwhole d List.mem_cons_self)⟩

/-- A sign in front of digits is seen. -/
lemma signText_append_inj {a b : Bool} {c d : Char} {cs ds : List Char} (hc : isDigit c = true)
    (hd : isDigit d = true) (h : signText a ++ c :: cs = signText b ++ d :: ds) :
    a = b ∧ c :: cs = d :: ds := by
  have hne : ∀ {c : Char}, isDigit c = true → c ≠ '-' := by
    rintro c hc rfl
    cases hc
  cases a <;> cases b
  · exact ⟨rfl, h⟩
  · exact absurd (List.cons.inj h).1 (hne hc)
  · exact absurd (List.cons.inj h).1.symm (hne hd)
  · exact ⟨rfl, (List.cons.inj h).2⟩

lemma decimalInt_eq (i : Int) : decimalInt i = signText (decide (i < 0)) ++ decimal i.natAbs := by
  rw [decimalInt, signText]
  by_cases hneg : i < 0
  · rw [if_pos hneg, decide_eq_true hneg, if_pos rfl]
    rfl
  · rw [if_neg hneg, decide_eq_false hneg, if_neg Bool.false_ne_true]
    rfl

end Numeral

namespace Double

open Decimal (shortest)

lemma lt_of_mem_zeros_or {ds : List Nat} (hds : ∀ d ∈ ds, d < 10) {k d : Nat}
    (hd : d ∈ List.replicate k 0 ∨ d ∈ ds) : d < 10 := by
  rcases hd with hd | hd
  · rw [List.eq_of_mem_replicate hd]
    decide
  · exact hds d hd

section Digits

variable {ds : List Nat} (hds : ∀ d ∈ ds, d < 10) (hne : ds ≠ [])
include hds hne

/-- A whole number has zeros up to the point and one behind it. -/
lemma writesDecimal_zeros_after (k : Nat) :
    WritesDecimal (valueFrom 10 0 ds * 10 ^ (k : Int))
      (digitText ds ++ List.replicate k '0' ++ ['.', '0']) := by
  refine ⟨ds ++ List.replicate k 0, [0], none,
    fun d hd => lt_of_mem_zeros_or hds (List.mem_append.mp hd).symm, by decide, by simp [hne],
    .inl (by decide), ?_, ?_⟩
  · have hzero : valueFrom 10 0 [0] = 0 := rfl
    rw [scaledValue, valueFrom_append, valueFrom_append, valueFrom_replicate_zero,
      List.length_replicate, hzero, List.length_singleton, Option.getD_none, zpow_natCast]
    push_cast
    field_simp
    norm_num
  · rw [digitText, digitText, List.map_append, List.map_replicate]
    rfl

omit hne in
/-- The point stands between the digits. -/
lemma writesDecimal_point_within {k : Nat} (hpos : 0 < k) (hk : k < ds.length) :
    WritesDecimal (valueFrom 10 0 ds * 10 ^ (0 - (k : Int)))
      (digitText (ds.take (ds.length - k)) ++ '.' :: digitText (ds.drop (ds.length - k))) := by
  have hfraction : (ds.drop (ds.length - k)).length = k := by
    rw [List.length_drop]
    omega
  have hsome : ds.drop (ds.length - k) ≠ [] := by
    rw [← List.length_pos_iff_ne_nil, hfraction]
    exact hpos
  refine ⟨ds.take (ds.length - k), ds.drop (ds.length - k), none,
    fun d hd => hds d (List.mem_of_mem_take hd), fun d hd => hds d (List.mem_of_mem_drop hd),
    ?_, .inl hsome, ?_, ?_⟩
  · rw [← List.length_pos_iff_ne_nil, List.length_take]
    omega
  · rw [scaledValue, List.take_append_drop, hfraction, Option.getD_none]
  · rw [fractionText, if_neg hsome, exponentText, List.append_nil]

/-- The digits stand after the point, with zeros in front. -/
lemma writesDecimal_zeros_before {k : Nat} (hk : ds.length ≤ k) :
    WritesDecimal (valueFrom 10 0 ds * 10 ^ (0 - (k : Int)))
      (['0', '.'] ++ List.replicate (k - ds.length) '0' ++ digitText ds) := by
  have hfraction : (List.replicate (k - ds.length) 0 ++ ds).length = k := by
    rw [List.length_append, List.length_replicate]
    omega
  have hsome : List.replicate (k - ds.length) 0 ++ ds ≠ [] := by simp [hne]
  refine ⟨[0], List.replicate (k - ds.length) 0 ++ ds, none, by decide,
    fun d hd => lt_of_mem_zeros_or hds (List.mem_append.mp hd), by decide, .inl hsome, ?_, ?_⟩
  · have hzero : [0] = List.replicate 1 0 := rfl
    rw [scaledValue, hzero, valueFrom_zeros_append, valueFrom_zeros_append, hfraction,
      Option.getD_none]
  · rw [fractionText, if_neg hsome, digitText, digitText, digitText, List.map_append,
      List.map_replicate, exponentText, List.append_nil]
    rfl

lemma writesDecimal_positional (e : Int) :
    WritesDecimal (⟨valueFrom 10 0 ds, e⟩ : Decimal).value
      (positional true (digitText ds) e) := by
  have hlength : (digitText ds).length = ds.length := List.length_map _
  rw [positional, Decimal.value]
  split
  · next he =>
    obtain ⟨k, rfl⟩ := Int.eq_ofNat_of_zero_le he
    exact writesDecimal_zeros_after hds hne k
  · next he =>
    obtain ⟨k, hk⟩ := Int.eq_ofNat_of_zero_le (show 0 ≤ -e by omega)
    obtain rfl : e = 0 - (k : Int) := by omega
    have hplaces : (-(0 - (k : Int))).toNat = k := by omega
    rw [hplaces, hlength]
    dsimp only
    split
    · next hlt =>
      rw [digitText, ← List.map_take, ← List.map_drop]
      exact writesDecimal_point_within hds (by omega) hlt
    · next hle => exact writesDecimal_zeros_before hds hne (Nat.not_lt.mp hle)

lemma writesDecimal_scientific (e : Int) :
    WritesDecimal (⟨valueFrom 10 0 ds, e⟩ : Decimal).value
      (scientific ['+'] (digitText ds) e) := by
  obtain ⟨d, ds, rfl⟩ := List.exists_cons_of_ne_nil hne
  obtain ⟨hd, hrest⟩ := List.forall_mem_cons.mp hds
  have hlength : (digitText (d :: ds)).length - 1 = ds.length := by
    rw [digitText, List.length_map, List.length_cons, Nat.add_sub_cancel]
  refine ⟨[d], ds, some (e + ds.length), List.forall_mem_singleton.mpr hd, hrest,
    List.cons_ne_nil d [], .inr (Option.some_ne_none _), ?_, ?_⟩
  · rw [scaledValue, Decimal.value, Option.getD_some, add_sub_cancel_right, List.singleton_append]
  · unfold scientific
    rw [hlength]
    cases ds with
    | nil => rfl
    | cons d' ds => exact List.append_assoc _ _ _

end Digits

lemma writesDecimal_unsignedText (d : Double) :
    WritesDecimal (shortest d).value (unsignedText .json d) := by
  have hds : ∀ c ∈ digits 10 (by decide) (shortest d).digits, c < 10 :=
    fun _ => lt_of_mem_decimalDigits
  have hne := digits_ne_nil (shortest d).digits
  have hpositional := writesDecimal_positional hds hne (shortest d).exponent
  have hscientific := writesDecimal_scientific hds hne (shortest d).exponent
  rw [valueFrom_digits] at hpositional hscientific
  unfold unsignedText
  dsimp only [DoubleFormat.json]
  split
  · exact hpositional
  · exact hscientific

lemma render_eq {d : Double} (hd : d.isFinite = true) :
    render .json d = signText d.isNegative ++ unsignedText .json d := by
  rw [render, hd, signText]
  cases d.isNegative <;> rfl

lemma eq_of_magnitude_eq {a b : Double} (hsign : a.isNegative = b.isNegative)
    (h : a.magnitude = b.magnitude) : a = b := by
  have hkey : a.orderKey = b.orderKey := by rw [orderKey_eq, orderKey_eq, hsign, h]
  obtain ⟨x⟩ := a
  obtain ⟨y⟩ := b
  congr 1
  apply UInt64.toNat_inj.mp
  have hx := x.toNat_lt
  have hy := y.toNat_lt
  have hbound : 0x8000000000000000 ≤ x.toNat ↔ 0x8000000000000000 ≤ y.toNat :=
    decide_eq_decide.mp hsign
  simp only [orderKey, isNegative, decide_eq_true_eq] at hkey
  split at hkey <;> split at hkey <;> omega

variable {rest rest' : List Char} (hr : Json.Follows rest) (hr' : Json.Follows rest')
include hr hr'

/-- A finite double is known from its text, wherever that stands. -/
theorem render_append_inj {a b : Double} (ha : a.isFinite = true) (hb : b.isFinite = true)
    (h : render .json a ++ rest = render .json b ++ rest') : a = b ∧ rest = rest' := by
  have hwa := writesDecimal_unsignedText a
  have hwb := writesDecimal_unsignedText b
  have hreada := hwa.unsignedAt? hr
  have hreadb := hwb.unsignedAt? hr'
  obtain ⟨c, cs, hcs, hc⟩ := hwa.exists_cons
  obtain ⟨d, ds, hds, hd⟩ := hwb.exists_cons
  rw [render_eq ha, render_eq hb, hcs, hds, List.append_assoc, List.append_assoc, List.cons_append,
    List.cons_append] at h
  obtain ⟨hsign, htext⟩ := signText_append_inj hc hd h
  rw [hcs, List.cons_append, htext, ← List.cons_append, ← hds, hreadb] at hreada
  obtain ⟨hvalue, hrest⟩ := Prod.mk.inj (Option.some.inj hreada)
  exact ⟨eq_of_magnitude_eq hsign
    (Decimal.magnitude_eq_of_value_shortest_eq ha hb hvalue.symm), hrest.symm⟩

/-- The text of a double is not that of a whole number. -/
theorem render_append_ne {d : Double} (hd : d.isFinite = true) (i : Int) :
    render .json d ++ rest ≠ decimalInt i ++ rest' := by
  intro h
  have hw := writesDecimal_unsignedText d
  obtain ⟨c, cs, hcs, hc⟩ := hw.exists_cons
  obtain ⟨c', cs', hcs', hc'⟩ := decimal_eq_cons i.natAbs
  rw [render_eq hd, decimalInt_eq, hcs, hcs', List.append_assoc, List.append_assoc,
    List.cons_append, List.cons_append] at h
  obtain ⟨-, htext⟩ := signText_append_inj hc hc' h
  have hnot := hw.not_follows hr
  rw [hcs, List.cons_append, htext, ← List.cons_append, ← hcs', Json.digitRun_decimal _ hr'] at hnot
  exact hnot hr'

end Double

end GatedRelay
