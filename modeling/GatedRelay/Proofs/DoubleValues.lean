import GatedRelay.Number.Binary64
import Mathlib.Algebra.Order.Field.Power
import Mathlib.Data.Rat.Cast.Order
import Mathlib.Tactic.Linarith
import Mathlib.Tactic.Positivity
import Mathlib.Tactic.NormNum
import Mathlib.Tactic.Ring

/-!
# What doubles stand for

The order of doubles by their bits is the order of the numbers that they stand for. Whole numbers
below 2^53 are doubles; those beyond stay beyond when they are rounded.
-/

namespace GatedRelay.Double

/-- The absolute value of a finite double. -/
def absValue (d : Double) : ℚ := d.significand * 2 ^ d.exponent

/-- The number that a finite double stands for. -/
def value (d : Double) : ℚ := if d.isNegative then -d.absValue else d.absValue

/-! ### Order -/

/-- The bits of a double but for its sign. -/
def magnitude (d : Double) : Nat := d.exponentField * 0x10000000000000 + d.fractionField

variable {a b : Double}

lemma fractionField_lt (d : Double) : d.fractionField < 0x10000000000000 :=
  Nat.mod_lt _ (by decide)

lemma orderKey_eq (d : Double) :
    d.orderKey = if d.isNegative then -(d.magnitude : Int) else (d.magnitude : Int) := by
  have hbits := d.bits.toNat_lt
  by_cases hneg : d.isNegative = true
  · have hlow : 0x8000000000000000 ≤ d.bits.toNat := of_decide_eq_true hneg
    have hmagnitude : d.bits.toNat - 0x8000000000000000 = d.magnitude := by
      unfold magnitude exponentField fractionField
      omega
    rw [orderKey, if_pos hneg, if_pos hneg, hmagnitude]
  · have hhigh : ¬0x8000000000000000 ≤ d.bits.toNat := fun h => hneg (decide_eq_true h)
    have hmagnitude : d.bits.toNat = d.magnitude := by
      unfold magnitude exponentField fractionField
      omega
    rw [orderKey, if_neg hneg, if_neg hneg, hmagnitude]

lemma absValue_nonneg (d : Double) : 0 ≤ d.absValue := by
  unfold absValue
  positivity

lemma absValue_pos_iff {d : Double} : 0 < d.absValue ↔ 0 < d.magnitude := by
  have hpow : (0 : ℚ) < 2 ^ d.exponent := by positivity
  rw [absValue, mul_pos_iff_of_pos_right hpow, Nat.cast_pos, significand, magnitude]
  split <;> omega

/-- Less than twice the power of two that the exponent field stands for. -/
lemma absValue_lt (d : Double) :
    d.absValue < 0x10000000000000 * 2 ^ ((d.exponentField : Int) - 1074) := by
  have hfraction := d.fractionField_lt
  unfold absValue significand exponent
  split
  · next hzero =>
    rw [hzero, Nat.cast_zero, zero_sub]
    have hf : (d.fractionField : ℚ) < 0x10000000000000 := by exact_mod_cast hfraction
    have hpow : (0 : ℚ) < 2 ^ (-1074 : Int) := by positivity
    exact mul_lt_mul_of_pos_right hf hpow
  · have hsplit : (2 : ℚ) ^ ((d.exponentField : Int) - 1074) =
        2 * 2 ^ ((d.exponentField : Int) - 1075) := by
      rw [← zpow_one_add₀ two_ne_zero]
      congr 1
      omega
    have hf : ((0x10000000000000 + d.fractionField : Nat) : ℚ) < 0x10000000000000 * 2 := by
      exact_mod_cast (by omega : 0x10000000000000 + d.fractionField < 0x10000000000000 * 2)
    have hpow : (0 : ℚ) < 2 ^ ((d.exponentField : Int) - 1075) := by positivity
    rw [hsplit, ← mul_assoc]
    exact mul_lt_mul_of_pos_right hf hpow

lemma le_absValue {d : Double} (hd : d.exponentField ≠ 0) :
    0x10000000000000 * 2 ^ ((d.exponentField : Int) - 1075) ≤ d.absValue := by
  have hf : (0x10000000000000 : ℚ) ≤ (0x10000000000000 + d.fractionField : Nat) := by
    exact_mod_cast Nat.le_add_right _ _
  rw [absValue, significand, if_neg hd, exponent, if_neg hd]
  exact mul_le_mul_of_nonneg_right hf (by positivity)

lemma absValue_lt_of_magnitude_lt (h : a.magnitude < b.magnitude) : a.absValue < b.absValue := by
  have ha := a.fractionField_lt
  have hb := b.fractionField_lt
  unfold magnitude at h
  rcases Nat.lt_or_ge a.exponentField b.exponentField with hlt | hge
  · calc a.absValue < 0x10000000000000 * 2 ^ ((a.exponentField : Int) - 1074) := a.absValue_lt
      _ ≤ 0x10000000000000 * 2 ^ ((b.exponentField : Int) - 1075) := by
          have hexp : (a.exponentField : Int) - 1074 ≤ (b.exponentField : Int) - 1075 := by omega
          exact mul_le_mul_of_nonneg_left (zpow_le_zpow_right₀ one_le_two hexp) (by norm_num)
      _ ≤ b.absValue := le_absValue (by omega)
  · have heq : a.exponentField = b.exponentField := by omega
    have hpow : (0 : ℚ) < 2 ^ b.exponent := by positivity
    have hsig : a.significand < b.significand := by
      unfold significand
      rw [heq]
      split <;> omega
    have hexp : a.exponent = b.exponent := by rw [exponent, exponent, heq]
    rw [absValue, absValue, hexp]
    exact mul_lt_mul_of_pos_right (by exact_mod_cast hsig) hpow

lemma absValue_eq_of_magnitude_eq (h : a.magnitude = b.magnitude) : a.absValue = b.absValue := by
  have ha := a.fractionField_lt
  have hb := b.fractionField_lt
  unfold magnitude at h
  have hexp : a.exponentField = b.exponentField := by omega
  have hfraction : a.fractionField = b.fractionField := by omega
  rw [absValue, absValue, significand, significand, exponent, exponent, hexp, hfraction]

lemma value_lt_of_orderKey_lt (h : a.orderKey < b.orderKey) : a.value < b.value := by
  rw [orderKey_eq, orderKey_eq] at h
  have ha := a.absValue_nonneg
  have hb := b.absValue_nonneg
  unfold value
  cases hna : a.isNegative <;> cases hnb : b.isNegative <;>
    simp only [hna, hnb, Bool.false_eq_true, if_true, if_false] at h ⊢
  · exact absValue_lt_of_magnitude_lt (by omega)
  · omega
  · rcases Nat.eq_zero_or_pos a.magnitude with hzero | hpos
    · have hpos := absValue_pos_iff.mpr (show 0 < b.magnitude by omega)
      linarith
    · have hpos := absValue_pos_iff.mpr hpos
      linarith
  · have hlt := absValue_lt_of_magnitude_lt (show b.magnitude < a.magnitude by omega)
    linarith

lemma absValue_eq_zero (h : a.magnitude = 0) : a.absValue = 0 := by
  have hpos : ¬0 < a.absValue := fun hpos => (absValue_pos_iff.mp hpos).ne' h
  exact le_antisymm (not_lt.mp hpos) a.absValue_nonneg

lemma value_nonneg {d : Double} (h : d.isNegative = false ∨ d.isZero = true) : 0 ≤ d.value := by
  rcases h with hsign | hzero
  · rw [value, hsign, if_neg (by decide)]
    exact d.absValue_nonneg
  · rw [isZero, Bool.and_eq_true, beq_iff_eq, beq_iff_eq] at hzero
    have hmagnitude : d.magnitude = 0 := by rw [magnitude, hzero.1, hzero.2]
    rw [value, absValue_eq_zero hmagnitude, neg_zero, ite_self]

lemma value_eq_of_orderKey_eq (h : a.orderKey = b.orderKey) : a.value = b.value := by
  rw [orderKey_eq, orderKey_eq] at h
  unfold value
  cases hna : a.isNegative <;> cases hnb : b.isNegative <;>
    simp only [hna, hnb, Bool.false_eq_true, if_true, if_false] at h ⊢
  · exact absValue_eq_of_magnitude_eq (by omega)
  · rw [absValue_eq_zero (show a.magnitude = 0 by omega),
      absValue_eq_zero (show b.magnitude = 0 by omega), neg_zero]
  · rw [absValue_eq_zero (show a.magnitude = 0 by omega),
      absValue_eq_zero (show b.magnitude = 0 by omega), neg_zero]
  · rw [absValue_eq_of_magnitude_eq (show a.magnitude = b.magnitude by omega)]

/-- The two zeros apart, different bits stand for different numbers, and their order is known from
the bits. -/
theorem value_lt_iff : a.value < b.value ↔ a.orderKey < b.orderKey := by
  constructor
  · intro h
    rcases lt_trichotomy a.orderKey b.orderKey with hlt | heq | hgt
    · exact hlt
    · exact absurd h (value_eq_of_orderKey_eq heq).not_lt
    · exact absurd h (value_lt_of_orderKey_lt hgt).not_gt
  · exact value_lt_of_orderKey_lt

lemma compare?_eq_gt_iff (ha : a.isNaN = false) (hb : b.isNaN = false) :
    compare? a b = some .gt ↔ b.value < a.value := by
  rw [compare?, if_neg (by simp [ha, hb]), Option.some_inj, compare_gt_iff_gt, value_lt_iff]

/-! ### Rounding -/

lemma absRatio_pos (d : Double) : 0 < d.absRatio.2 := by
  unfold absRatio
  split
  · exact Nat.one_pos
  · exact Nat.pow_pos Nat.two_pos

lemma absRatio_eq (d : Double) : (d.absRatio.1 : ℚ) / d.absRatio.2 = d.absValue := by
  unfold absRatio absValue
  split
  · next hexp =>
    obtain ⟨k, hk⟩ := Int.eq_ofNat_of_zero_le hexp
    simp [hk]
  · next hexp =>
    obtain ⟨k, hk⟩ := Int.eq_ofNat_of_zero_le (show 0 ≤ -d.exponent by omega)
    have hneg : d.exponent = -(k : Int) := by omega
    simp [hneg, div_eq_mul_inv]

/-- The absolute value of a finite double to the nearest whole number, a half upwards. -/
def roundedAbs (d : Double) : Nat := (2 * d.absRatio.1 + d.absRatio.2) / (2 * d.absRatio.2)

lemma roundHalfAway_eq (d : Double) :
    d.roundHalfAway = if d.isNegative then -(d.roundedAbs : Int) else (d.roundedAbs : Int) := rfl

lemma le_roundedAbs_iff (d : Double) (k : Int) :
    k ≤ d.roundedAbs ↔ (k : ℚ) - 1 / 2 ≤ d.absValue := by
  have hden := d.absRatio_pos
  have hpos : (0 : ℚ) < d.absRatio.2 := by exact_mod_cast hden
  have hcast : k * (2 * d.absRatio.2) ≤ 2 * d.absRatio.1 + d.absRatio.2 ↔
      (k : ℚ) * (2 * d.absRatio.2) ≤ 2 * d.absRatio.1 + d.absRatio.2 := by exact_mod_cast Iff.rfl
  rw [roundedAbs, Int.natCast_ediv, Int.le_ediv_iff_mul_le (by positivity)]
  push_cast
  rw [hcast, ← absRatio_eq, le_div_iff₀ hpos]
  constructor <;> intro h <;> linarith

/-- A whole number is reached by rounding from half before it on. -/
lemma le_roundHalfAway_iff {d : Double} (hd : 0 ≤ d.value) (k : Int) :
    k ≤ d.roundHalfAway ↔ (k : ℚ) - 1 / 2 ≤ d.value := by
  by_cases hneg : d.isNegative = true
  · -- The zero is the only negative double here, and rounding leaves it.
    rw [value, if_pos hneg] at hd ⊢
    have hzero : d.absValue = 0 := le_antisymm (by linarith) d.absValue_nonneg
    have hrounded : ¬(1 : Int) ≤ d.roundedAbs := by
      rw [le_roundedAbs_iff, hzero]
      norm_num
    have hround : d.roundHalfAway = d.roundedAbs := by
      rw [roundHalfAway_eq, if_pos hneg]
      omega
    rw [hround, le_roundedAbs_iff, hzero, neg_zero]
  · rw [roundHalfAway_eq, value, if_neg hneg, if_neg hneg, le_roundedAbs_iff]

/-! ### Whole numbers -/

section Fields

variable {e f : Nat} (he : e ≤ 2047) (hf : f < 0x10000000000000) (negative : Bool)
include he hf

lemma toNat_ofFields : (ofFields negative e f).bits.toNat =
    (if negative then 0x8000000000000000 else 0) + e * 0x10000000000000 + f := by
  rw [ofFields, UInt64.toNat_ofNat']
  exact Nat.mod_eq_of_lt (by split <;> omega)

lemma exponentField_ofFields : (ofFields negative e f).exponentField = e := by
  rw [exponentField, toNat_ofFields he hf]
  split <;> omega

lemma fractionField_ofFields : (ofFields negative e f).fractionField = f := by
  rw [fractionField, toNat_ofFields he hf]
  split <;> omega

lemma isNegative_ofFields : (ofFields negative e f).isNegative = negative := by
  rw [isNegative, toNat_ofFields he hf]
  cases negative <;> simp <;> omega

end Fields

section Scaled

variable {num n d : Nat} (hnum : num ≠ 0) {q : Int} (hq : q = (num.log2 : Int) - 52)
  (hscaled : scaled num 1 q = (n, d)) (hlow : d * 0x10000000000000 ≤ n)
include hnum hq hscaled hlow

/-- A whole number is scaled to 53 bits, and those are rounded. -/
lemma ofRatio_of_scaled (negative : Bool) :
    ofRatio negative num 1 = ofRounded negative (roundDiv n d) q := by
  have hguess : (num.log2 : Int) - (Nat.log2 1 : Nat) - 52 = q := by
    have hone : Nat.log2 1 = 0 := by decide
    rw [hq, hone, Nat.cast_zero, sub_zero]
  have hlast : lastExponent num 1 = q := by
    rw [lastExponent, hguess, hscaled, if_neg (not_lt.mpr hlow)]
    omega
  rw [ofRatio, if_neg (by simp [hnum]), hlast]
  dsimp only
  rw [hscaled]

end Scaled

lemma roundDiv_one (n : Nat) : roundDiv n 1 = n := by
  simp [roundDiv, Nat.mod_one]

lemma roundDiv_bounds {n d low high : Nat} (hd : 0 < d) (hlow : d * low ≤ n)
    (hhigh : n < d * high) : low ≤ roundDiv n d ∧ roundDiv n d ≤ high := by
  have hle : low ≤ n / d := (Nat.le_div_iff_mul_le hd).mpr (by rwa [Nat.mul_comm])
  have hlt : n / d < high := (Nat.div_lt_iff_lt_mul hd).mpr (by rwa [Nat.mul_comm])
  rw [roundDiv]
  split <;> omega

section Rounded

variable (negative : Bool) {m : Nat} {q : Int} (hlow : 0x10000000000000 ≤ m)
include hlow

lemma ofRounded_of_lt (hhigh : m < 0x20000000000000) (hq : q < 972) :
    ofRounded negative m q = ofFields negative (q + 1075).toNat (m - 0x10000000000000) := by
  rw [ofRounded, if_neg (not_lt.mpr hlow), if_neg hhigh.ne, if_neg hhigh.ne, if_neg (by omega)]

/-- With an exponent above zero the result stands for 2^53 at least, and is no NaN. -/
lemma exists_fields_ofRounded (hhigh : m ≤ 0x20000000000000) (hq : 1 ≤ q) :
    ∃ e f, ofRounded negative m q = ofFields negative e f ∧ 1076 ≤ e ∧ e ≤ 2047 ∧
      f < 0x10000000000000 ∧ (e = 2047 → f = 0) := by
  have hfraction : (if m = 0x20000000000000 then 0 else m - 0x10000000000000) <
      0x10000000000000 := by
    split <;> omega
  have hfield : 1076 ≤ (if m = 0x20000000000000 then q + 1 else q) + 1075 := by
    split <;> omega
  rw [ofRounded, if_neg (not_lt.mpr hlow)]
  generalize (if m = 0x20000000000000 then 0 else m - 0x10000000000000) = f at hfraction ⊢
  generalize (if m = 0x20000000000000 then q + 1 else q) + 1075 = e at hfield ⊢
  by_cases hrange : 2047 ≤ e
  · rw [if_pos hrange, infinity]
    exact ⟨2047, 0, rfl, by omega, le_rfl, by omega, fun _ => rfl⟩
  · rw [if_neg hrange]
    exact ⟨e.toNat, f, rfl, by omega, by omega, hfraction, by omega⟩

end Rounded

section Small

variable {n : Nat} (hn : n ≠ 0) (hlt : n < 0x20000000000000)
include hn hlt

lemma log2_le_of_lt : n.log2 ≤ 52 :=
  Nat.le_of_lt_succ ((Nat.log2_lt hn).mpr hlt)

/-- Its own power of two brings a whole number of at most 53 bits to 53 bits. -/
lemma shifted_bounds : 0x10000000000000 ≤ n * 2 ^ (52 - n.log2) ∧
    n * 2 ^ (52 - n.log2) < 0x20000000000000 := by
  have hsplit : 2 ^ n.log2 * 2 ^ (52 - n.log2) = 0x10000000000000 := by
    rw [← pow_add, Nat.add_sub_cancel' (log2_le_of_lt hn hlt)]
    norm_num
  constructor
  · rw [← hsplit]
    exact Nat.mul_le_mul_right _ (Nat.log2_self_le hn)
  · have hpos : 0 < 2 ^ (52 - n.log2) := Nat.two_pow_pos _
    calc n * 2 ^ (52 - n.log2) < 2 ^ (n.log2 + 1) * 2 ^ (52 - n.log2) :=
          Nat.mul_lt_mul_of_pos_right Nat.lt_log2_self hpos
      _ = 2 ^ n.log2 * 2 ^ (52 - n.log2) * 2 := by ring
      _ = 0x20000000000000 := by rw [hsplit]

/-- A whole number of at most 53 bits is a double. -/
lemma ofRatio_of_lt (negative : Bool) : ofRatio negative n 1 =
    ofFields negative (n.log2 + 1023) (n * 2 ^ (52 - n.log2) - 0x10000000000000) := by
  have hlog := log2_le_of_lt hn hlt
  obtain ⟨hlow, hhigh⟩ := shifted_bounds hn hlt
  have hscaled : scaled n 1 ((n.log2 : Int) - 52) = (n * 2 ^ (52 - n.log2), 1) := by
    rw [scaled]
    split
    · have heq : n.log2 = 52 := by omega
      simp [heq]
    · have hexp : (-((n.log2 : Int) - 52)).toNat = 52 - n.log2 := by omega
      rw [hexp]
      rfl
  have hfield : ((n.log2 : Int) - 52 + 1075).toNat = n.log2 + 1023 := by omega
  rw [ofRatio_of_scaled hn rfl hscaled (by omega), roundDiv_one,
    ofRounded_of_lt negative hlow hhigh (by omega), hfield]

end Small

/-- A whole number beyond those does not come back below 2^53. -/
lemma exists_fields_ofRatio (negative : Bool) {n : Nat} (hn : 0x20000000000000 ≤ n) :
    ∃ e f, ofRatio negative n 1 = ofFields negative e f ∧ 1076 ≤ e ∧ e ≤ 2047 ∧
      f < 0x10000000000000 ∧ (e = 2047 → f = 0) := by
  have hpos : n ≠ 0 := by omega
  have hlog : 53 ≤ n.log2 := (Nat.le_log2 hpos).mpr hn
  obtain ⟨k, hk⟩ := Nat.exists_eq_add_of_le hlog
  have hscaled : scaled n 1 ((n.log2 : Int) - 52) = (n, 2 ^ (k + 1)) := by
    have hexp : ((n.log2 : Int) - 52).toNat = k + 1 := by omega
    rw [scaled, if_pos (by omega), hexp, one_mul]
    rfl
  have hlow : 2 ^ (k + 1) * 0x10000000000000 ≤ n := by
    calc 2 ^ (k + 1) * 0x10000000000000 = 2 ^ n.log2 := by rw [hk]; ring
      _ ≤ n := Nat.log2_self_le hpos
  have hhigh : n < 2 ^ (k + 1) * 0x20000000000000 := by
    calc n < 2 ^ (n.log2 + 1) := Nat.lt_log2_self
      _ = 2 ^ (k + 1) * 0x20000000000000 := by rw [hk]; ring
  obtain ⟨hle, hge⟩ := roundDiv_bounds (Nat.two_pow_pos (k + 1)) hlow hhigh
  rw [ofRatio_of_scaled hpos rfl hscaled hlow]
  exact exists_fields_ofRounded negative hle hge (by omega)

lemma ofRatio_zero (negative : Bool) : ofRatio negative 0 1 = ofFields negative 0 0 := by
  rw [ofRatio, if_pos (.inl rfl), zero]

/-! ### Integers -/

lemma isNegative_isNaN_ofRatio (negative : Bool) (n : Nat) :
    (ofRatio negative n 1).isNegative = negative ∧ (ofRatio negative n 1).isNaN = false := by
  have hfields : ∃ e f, ofRatio negative n 1 = ofFields negative e f ∧ e ≤ 2047 ∧
      f < 0x10000000000000 ∧ (e = 2047 → f = 0) := by
    rcases Nat.eq_zero_or_pos n with rfl | hpos
    · exact ⟨0, 0, ofRatio_zero negative, by omega, by omega, by omega⟩
    · rcases Nat.lt_or_ge n 0x20000000000000 with hlt | hge
      · have hlog := log2_le_of_lt hpos.ne' hlt
        have hbounds := shifted_bounds hpos.ne' hlt
        exact ⟨_, _, ofRatio_of_lt hpos.ne' hlt negative, by omega, by omega, by omega⟩
      · obtain ⟨e, f, heq, -, hfields⟩ := exists_fields_ofRatio negative hge
        exact ⟨e, f, heq, hfields⟩
  obtain ⟨e, f, heq, he, hf, hnan⟩ := hfields
  rw [heq, isNegative_ofFields he hf, isNaN, exponentField_ofFields he hf,
    fractionField_ofFields he hf]
  refine ⟨rfl, ?_⟩
  by_cases hfull : e = 2047
  · rw [hnan hfull]
    exact Bool.and_false _
  · simp [hfull]

lemma absValue_ofRatio {n : Nat} (hlt : n < 0x20000000000000) (negative : Bool) :
    (ofRatio negative n 1).absValue = n := by
  rcases Nat.eq_zero_or_pos n with rfl | hpos
  · rw [ofRatio_zero, Nat.cast_zero]
    apply absValue_eq_zero
    rw [magnitude, exponentField_ofFields (by omega) (by omega),
      fractionField_ofFields (by omega) (by omega)]
  · have hlog := log2_le_of_lt hpos.ne' hlt
    have hbounds := shifted_bounds hpos.ne' hlt
    have he : n.log2 + 1023 ≤ 2047 := by omega
    have hf : n * 2 ^ (52 - n.log2) - 0x10000000000000 < 0x10000000000000 := by omega
    have hsum : 0x10000000000000 + (n * 2 ^ (52 - n.log2) - 0x10000000000000) =
        n * 2 ^ (52 - n.log2) := by omega
    have hexp : ((n.log2 + 1023 : Nat) : Int) - 1075 = -((52 - n.log2 : Nat) : Int) := by omega
    rw [ofRatio_of_lt hpos.ne' hlt, absValue, significand, exponent, exponentField_ofFields he hf,
      fractionField_ofFields he hf, if_neg (by omega), if_neg (by omega), hsum, hexp, zpow_neg,
      zpow_natCast]
    push_cast
    exact mul_inv_cancel_right₀ (by positivity) _

lemma le_absValue_ofRatio {n : Nat} (hn : 0x20000000000000 ≤ n) (negative : Bool) :
    0x20000000000000 ≤ (ofRatio negative n 1).absValue := by
  obtain ⟨e, f, heq, hlow, hhigh, hf, -⟩ := exists_fields_ofRatio negative hn
  have hfield := exponentField_ofFields hhigh hf negative
  have hle := le_absValue (d := ofFields negative e f) (by rw [hfield]; omega)
  rw [hfield] at hle
  have hone : (1 : Int) ≤ (e : Int) - 1075 := by omega
  have hpow : (2 : ℚ) ^ (1 : Int) ≤ 2 ^ ((e : Int) - 1075) := zpow_le_zpow_right₀ one_le_two hone
  rw [heq]
  linarith

lemma isNaN_ofInt (i : Int) : (ofInt i).isNaN = false :=
  (isNegative_isNaN_ofRatio _ _).2

lemma value_ofInt_eq (i : Int) :
    (ofInt i).value = if i < 0 then -(ofInt i).absValue else (ofInt i).absValue := by
  have hneg : (ofInt i).isNegative = decide (i < 0) := (isNegative_isNaN_ofRatio _ _).1
  simp only [value, hneg, decide_eq_true_eq]

lemma value_ofInt {i : Int} (hi : i.natAbs < 0x20000000000000) : (ofInt i).value = i := by
  have habs : (ofInt i).absValue = i.natAbs := absValue_ofRatio hi _
  rw [value_ofInt_eq, habs, ← Int.cast_natCast i.natAbs]
  split
  · next hneg => rw [Int.ofNat_natAbs_of_nonpos hneg.le, Int.cast_neg, neg_neg]
  · next hpos => rw [Int.natAbs_of_nonneg (not_lt.mp hpos)]

/-- Rounding takes no whole number past one that a double holds exactly. -/
lemma value_ofInt_le_iff {i bound : Int} (hbound : bound.natAbs < 0x20000000000000) :
    (ofInt i).value ≤ bound ↔ i ≤ bound := by
  rcases Nat.lt_or_ge i.natAbs 0x20000000000000 with hlt | hge
  · rw [value_ofInt hlt]
    exact Int.cast_le
  · have habs : 0x20000000000000 ≤ (ofInt i).absValue := le_absValue_ofRatio hge _
    have hlow : (-0x20000000000000 : ℚ) < bound := by
      exact_mod_cast (by omega : (-0x20000000000000 : Int) < bound)
    have hhigh : (bound : ℚ) < 0x20000000000000 := by
      exact_mod_cast (by omega : bound < (0x20000000000000 : Int))
    rw [value_ofInt_eq]
    split
    · next hneg => exact iff_of_true (by linarith) (by omega)
    · next hpos => exact iff_of_false (by linarith) (by omega)

end GatedRelay.Double
