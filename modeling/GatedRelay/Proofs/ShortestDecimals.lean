import GatedRelay.Number.Shortest
import GatedRelay.Proofs.DoubleValues

/-!
# Shortest decimals

The shortest decimal of a double is one of the numbers that are rounded to it, since seventeen
digits are always enough to reach one. The numbers that are rounded to one double are not rounded to
another, so doubles with the same shortest decimal differ in their signs at most.
-/

namespace GatedRelay

namespace Double

/-! ### The numbers that are rounded to a double -/

/-- The exponent of the doubles with these bits but for the sign. -/
def stepExponent (n : Nat) : Int := ((max (n / 0x10000000000000) 1 : Nat) : Int) - 1075

/-- The significand of the doubles with these bits but for the sign. -/
def stepSignificand (n : Nat) : Nat :=
  if n / 0x10000000000000 = 0 then n % 0x10000000000000
  else 0x10000000000000 + n % 0x10000000000000

/-- The absolute value of the doubles with these bits but for the sign. -/
def stepValue (n : Nat) : ℚ := stepSignificand n * 2 ^ stepExponent n

lemma magnitude_div (d : Double) : d.magnitude / 0x10000000000000 = d.exponentField := by
  have hfraction := d.fractionField_lt
  unfold magnitude
  omega

lemma magnitude_mod (d : Double) : d.magnitude % 0x10000000000000 = d.fractionField := by
  have hfraction := d.fractionField_lt
  unfold magnitude
  omega

lemma isZero_iff {d : Double} : d.isZero = true ↔ d.magnitude = 0 := by
  rw [isZero, Bool.and_eq_true, beq_iff_eq, beq_iff_eq, magnitude]
  omega

lemma significand_eq (d : Double) : d.significand = stepSignificand d.magnitude := by
  rw [stepSignificand, magnitude_div, magnitude_mod, significand]

lemma exponent_eq (d : Double) : d.exponent = stepExponent d.magnitude := by
  rw [stepExponent, magnitude_div, exponent]
  split <;> omega

lemma absValue_eq (d : Double) : d.absValue = stepValue d.magnitude := by
  rw [absValue, stepValue, significand_eq, exponent_eq]

/-- Either the significand goes up by one, or the exponent does and the significand starts again. -/
lemma step_succ (n : Nat) :
    (stepSignificand (n + 1) = stepSignificand n + 1 ∧ stepExponent (n + 1) = stepExponent n) ∨
    (stepSignificand n = 0x1fffffffffffff ∧ stepSignificand (n + 1) = 0x10000000000000 ∧
      stepExponent (n + 1) = stepExponent n + 1) := by
  unfold stepSignificand stepExponent
  split <;> split <;> omega

lemma stepSignificand_lt (n : Nat) : stepSignificand n < 0x20000000000000 := by
  unfold stepSignificand
  split <;> omega

lemma stepValue_succ (n : Nat) : stepValue (n + 1) = stepValue n + 2 ^ stepExponent n := by
  unfold stepValue
  rcases step_succ n with ⟨hm, hq⟩ | ⟨hm, hm', hq⟩
  · rw [hm, hq]
    push_cast
    ring
  · rw [hm, hm', hq, zpow_add_one₀ two_ne_zero]
    norm_num
    ring

lemma stepValue_strictMono : StrictMono stepValue := by
  refine strictMono_nat_of_lt_succ fun n => ?_
  have hpow : (0 : ℚ) < 2 ^ stepExponent n := by positivity
  rw [stepValue_succ]
  linarith

/-- The steps are not smaller, for their place, than those of 53 bits. -/
lemma stepValue_succ_le (n : Nat) : stepValue (n + 1) ≤ 0x20000000000000 * 2 ^ stepExponent n := by
  have hlt := stepSignificand_lt n
  have hm : (stepSignificand n : ℚ) + 1 ≤ 0x20000000000000 := by exact_mod_cast hlt
  have hpow : (0 : ℚ) ≤ 2 ^ stepExponent n := by positivity
  calc stepValue (n + 1) = (stepSignificand n + 1) * 2 ^ stepExponent n := by
        rw [stepValue_succ, stepValue]
        ring
    _ ≤ 0x20000000000000 * 2 ^ stepExponent n := mul_le_mul_of_nonneg_right hm hpow

/-- Halfway to the next double. -/
def halfway (n : Nat) : ℚ := (stepValue n + stepValue (n + 1)) / 2

lemma halfway_strictMono : StrictMono halfway := by
  intro a b hab
  have hlow := stepValue_strictMono hab
  have hhigh := stepValue_strictMono (Nat.succ_lt_succ hab)
  unfold halfway
  linarith

lemma halfway_pos (n : Nat) : 0 < halfway n := by
  have hzero : stepValue 0 = 0 := by simp [stepValue, stepSignificand]
  have hlow := stepValue_strictMono.monotone (Nat.zero_le n)
  have hhigh := stepValue_strictMono (Nat.succ_pos n)
  unfold halfway
  linarith

/-- The numbers that are rounded to the doubles with these bits but for the sign. The halves on
both sides belong to the double whose significand is even. -/
def RoundsTo (n : Nat) (y : ℚ) : Prop :=
  if n % 2 = 0 then halfway (n - 1) ≤ y ∧ y ≤ halfway n
  else halfway (n - 1) < y ∧ y < halfway n

namespace RoundsTo

variable {a b : Nat} {y : ℚ}

lemma of_between (hlow : halfway (a - 1) < y) (hhigh : y < halfway a) : RoundsTo a y := by
  unfold RoundsTo
  split
  · exact ⟨hlow.le, hhigh.le⟩
  · exact ⟨hlow, hhigh⟩

lemma bounds (h : RoundsTo a y) : halfway (a - 1) ≤ y ∧ y ≤ halfway a := by
  unfold RoundsTo at h
  split at h
  · exact h
  · exact ⟨h.1.le, h.2.le⟩

lemma pos (h : RoundsTo a y) : 0 < y := (halfway_pos _).trans_le h.bounds.1

lemma not_of_lt (ha : RoundsTo a y) (hb : RoundsTo b y) : ¬a < b := by
  intro hab
  rcases (Nat.succ_le_of_lt hab).lt_or_eq with hgap | hnext
  · -- A whole double lies between.
    have hmid : halfway a < halfway (b - 1) := halfway_strictMono (by omega)
    have hlow := hb.bounds.1
    have hhigh := ha.bounds.2
    linarith
  · -- Of two neighbours one is odd, and that one does not own the half between them.
    have hprev : b - 1 = a := by omega
    unfold RoundsTo at ha hb
    rw [hprev] at hb
    split at ha
    · have hodd : ¬b % 2 = 0 := by omega
      rw [if_neg hodd] at hb
      exact absurd hb.1 (not_lt.mpr ha.2)
    · have heven : b % 2 = 0 := by omega
      rw [if_pos heven] at hb
      exact absurd ha.2 (not_lt.mpr hb.1)

/-- No number is rounded to two doubles. -/
lemma unique (ha : RoundsTo a y) (hb : RoundsTo b y) : a = b :=
  Nat.le_antisymm (Nat.le_of_not_lt (hb.not_of_lt ha)) (Nat.le_of_not_lt (ha.not_of_lt hb))

/-- What is nearer to a double than the last of 54 bits is rounded to it. -/
lemma of_near (ha : 0 < a) (hlow : (stepValue a - y) * 0x40000000000000 < stepValue a)
    (hhigh : (y - stepValue a) * 0x40000000000000 < stepValue a) : RoundsTo a y := by
  obtain ⟨n, rfl⟩ : ∃ n, a = n + 1 := ⟨a - 1, by omega⟩
  have hbelow := stepValue_succ n
  have hbelow_le := stepValue_succ_le n
  have habove := stepValue_succ (n + 1)
  have habove_le := stepValue_succ_le (n + 1)
  have hstep : stepValue (n + 1) < stepValue (n + 2) := stepValue_strictMono (Nat.lt_succ_self _)
  apply of_between
  · rw [Nat.add_sub_cancel, halfway]
    linarith
  · rw [halfway]
    linarith

end RoundsTo

end Double

namespace Decimal

open Double (RoundsTo stepValue stepExponent halfway)

/-- The number that a decimal stands for. -/
def value (x : Decimal) : ℚ := x.digits * 10 ^ x.exponent

lemma ratio_pos (x : Decimal) : 0 < x.ratio.2 := by
  unfold ratio
  split
  · exact Nat.one_pos
  · exact Nat.pow_pos (by decide)

lemma ratio_eq (x : Decimal) : (x.ratio.1 : ℚ) / x.ratio.2 = x.value := by
  unfold ratio value
  split
  · next hexp =>
    obtain ⟨k, hk⟩ := Int.eq_ofNat_of_zero_le hexp
    simp [hk]
  · next hexp =>
    obtain ⟨k, hk⟩ := Int.eq_ofNat_of_zero_le (show 0 ≤ -x.exponent by omega)
    have hneg : x.exponent = -(k : Int) := by omega
    simp [hneg, div_eq_mul_inv]

lemma ratioLe_iff {a b c d : Nat} (hb : 0 < b) (hd : 0 < d) :
    ratioLe a b c d = true ↔ (a : ℚ) / b ≤ c / d := by
  have hb' : (0 : ℚ) < b := by exact_mod_cast hb
  have hd' : (0 : ℚ) < d := by exact_mod_cast hd
  rw [ratioLe, decide_eq_true_iff, div_le_div_iff₀ hb' hd']
  exact_mod_cast Iff.rfl

/-! ### Scaled quotients -/

/-- A quotient divided by a power as a quotient of whole numbers. -/
def scaledBy (base num den : Nat) (e : Int) : Nat × Nat :=
  if 0 ≤ e then (num, den * Nat.pow base e.toNat) else (num * Nat.pow base (-e).toNat, den)

lemma scaled_eq_scaledBy (num den : Nat) (q : Int) :
    Double.scaled num den q = scaledBy 2 num den q := rfl

lemma scaledBy_pos {base den : Nat} (hbase : 0 < base) (hden : 0 < den) (num : Nat) (e : Int) :
    0 < (scaledBy base num den e).2 := by
  unfold scaledBy
  split
  · exact Nat.mul_pos hden (Nat.pow_pos hbase)
  · exact hden

lemma scaledBy_eq (base num den : Nat) (e : Int) :
    ((scaledBy base num den e).1 : ℚ) / (scaledBy base num den e).2 =
      num / den / (base : ℚ) ^ e := by
  unfold scaledBy
  split
  · next he =>
    obtain ⟨k, rfl⟩ := Int.eq_ofNat_of_zero_le he
    simp [div_div]
  · next he =>
    obtain ⟨k, hk⟩ := Int.eq_ofNat_of_zero_le (show 0 ≤ -e by omega)
    obtain rfl : e = -(k : Int) := by omega
    simp [div_eq_mul_inv]
    ring

/-! ### The test of a candidate -/

section Test

variable {num den : Nat} (hden : 0 < den)
include hden

lemma ratioLe_scaled_iff (bound : Nat) (q : Int) :
    ratioLe bound 1 (Double.scaled num den q).1 (Double.scaled num den q).2 = true ↔
      bound * 2 ^ q ≤ (num / den : ℚ) := by
  have hpow : (0 : ℚ) < 2 ^ q := by positivity
  rw [scaled_eq_scaledBy, ratioLe_iff Nat.one_pos (scaledBy_pos Nat.two_pos hden num q),
    scaledBy_eq, Nat.cast_one, div_one, Nat.cast_ofNat, le_div_iff₀ hpow]

lemma scaled_ratioLe_iff (bound : Nat) (q : Int) :
    ratioLe (Double.scaled num den q).1 (Double.scaled num den q).2 bound 1 = true ↔
      (num / den : ℚ) ≤ bound * 2 ^ q := by
  have hpow : (0 : ℚ) < 2 ^ q := by positivity
  rw [scaled_eq_scaledBy, ratioLe_iff (scaledBy_pos Nat.two_pos hden num q) Nat.one_pos,
    scaledBy_eq, Nat.cast_one, div_one, Nat.cast_ofNat, div_le_iff₀ hpow]

end Test

/-- Whether the doubles below a double lie nearer than those above it. -/
def isNarrow (d : Double) : Bool := d.fractionField == 0 && 1 < d.exponentField

lemma high_end (d : Double) : ((4 * d.significand + 2 : Nat) : ℚ) * 2 ^ (d.exponent - 2) =
    halfway d.magnitude := by
  rw [halfway, Double.stepValue_succ, ← d.absValue_eq, ← d.exponent_eq, Double.absValue,
    zpow_sub₀ two_ne_zero]
  push_cast
  ring

section Ends

variable {d : Double} (hd : 0 < d.magnitude)
include hd

lemma significand_pos : 0 < d.significand := by
  unfold Double.magnitude at hd
  unfold Double.significand
  split <;> omega

/-- The exponent of the double below. -/
lemma stepExponent_pred : stepExponent (d.magnitude - 1) =
    if isNarrow d then d.exponent - 1 else d.exponent := by
  have hfraction := d.fractionField_lt
  have hdiv := d.magnitude_div
  have hmod := d.magnitude_mod
  rw [Double.exponent_eq, stepExponent, stepExponent, isNarrow]
  by_cases hnarrow : d.fractionField = 0 ∧ 1 < d.exponentField
  · rw [if_pos (by simpa using hnarrow)]
    omega
  · rw [if_neg (by simpa using hnarrow)]
    omega

lemma low_end :
    ((if isNarrow d then 4 * d.significand - 1 else 4 * d.significand - 2 : Nat) : ℚ) *
      2 ^ (d.exponent - 2) = halfway (d.magnitude - 1) := by
  have hpos := significand_pos hd
  have hsucc := Double.stepValue_succ (d.magnitude - 1)
  rw [Nat.sub_add_cancel hd, ← d.absValue_eq, stepExponent_pred hd, Double.absValue] at hsucc
  have hmid : halfway (d.magnitude - 1) =
      d.significand * 2 ^ d.exponent - 2 ^ stepExponent (d.magnitude - 1) / 2 := by
    rw [halfway, Nat.sub_add_cancel hd, ← d.absValue_eq, stepExponent_pred hd, Double.absValue]
    linarith
  rw [hmid, stepExponent_pred hd, zpow_sub₀ two_ne_zero]
  split
  · rw [zpow_sub_one₀ two_ne_zero, Nat.cast_sub (by omega)]
    push_cast
    ring
  · rw [Nat.cast_sub (by omega)]
    push_cast
    ring

lemma readsBack_iff {num den : Nat} (hden : 0 < den) :
    readsBack d.significand d.exponent (isNarrow d) num den = true ↔
      RoundsTo d.magnitude (num / den) := by
  have hparity : d.significand % 2 = d.magnitude % 2 := by
    unfold Double.significand Double.magnitude
    split <;> omega
  have hlow := low_end hd
  have hhigh := high_end d
  rw [readsBack, RoundsTo, hparity]
  dsimp only
  split
  · rw [Bool.and_eq_true, ratioLe_scaled_iff hden, scaled_ratioLe_iff hden, hlow, hhigh]
  · rw [Bool.and_eq_true, Bool.not_eq_true', Bool.not_eq_true', ← Bool.not_eq_true,
      ← Bool.not_eq_true, ratioLe_scaled_iff hden, scaled_ratioLe_iff hden, hlow, hhigh, not_le,
      not_le]

end Ends

/-! ### The place of the first digit -/

/-- Powers are compared by a common power of theirs. -/
lemma ten_zpow_le_two_zpow {p r : Nat} {k n : Int} (hr : r ≠ 0) (h : r * k ≤ p * n)
    (hpow : ((10 : ℚ) ^ p) ^ n ≤ (2 ^ r) ^ n) : (10 : ℚ) ^ k ≤ 2 ^ n := by
  have hten : ((10 : ℚ) ^ k) ^ r = 10 ^ (r * k) := by
    rw [← zpow_natCast, ← zpow_mul, mul_comm]
  have htwo : ((2 : ℚ) ^ n) ^ r = (2 ^ r) ^ n := by
    rw [← zpow_natCast, ← zpow_natCast, ← zpow_mul, ← zpow_mul, mul_comm]
  have hle : ((10 : ℚ) ^ k) ^ r ≤ ((2 : ℚ) ^ n) ^ r := by
    calc ((10 : ℚ) ^ k) ^ r = 10 ^ (r * k) := hten
      _ ≤ 10 ^ (p * n) := zpow_le_zpow_right₀ (by norm_num) h
      _ = (10 ^ p) ^ n := by rw [zpow_mul, zpow_natCast]
      _ ≤ (2 ^ r) ^ n := hpow
      _ = (2 ^ n) ^ r := htwo.symm
  exact le_of_pow_le_pow_left₀ hr (by positivity) hle

/-- The estimate of a decimal exponent from a binary one is not too large. -/
lemma ten_zpow_estimate_le {n : Int} (hlow : -1100 ≤ n) (hhigh : n ≤ 1100) :
    (10 : ℚ) ^ (n * 30103 / 100000 - 1) ≤ 2 ^ (n - 1) := by
  rcases Int.lt_or_le (n - 1) 0 with hneg | hnonneg
  · obtain ⟨k, hk⟩ := Int.eq_ofNat_of_zero_le (show 0 ≤ -(n - 1) by omega)
    obtain rfl : n = -(k : Int) + 1 := by omega
    refine ten_zpow_le_two_zpow (p := 28) (r := 93) (by decide) (by push_cast; omega) ?_
    rw [add_sub_cancel_right, zpow_neg, zpow_neg, zpow_natCast, zpow_natCast]
    exact inv_anti₀ (by positivity) (pow_le_pow_left₀ (by positivity) (by norm_num) k)
  · obtain ⟨k, hk⟩ := Int.eq_ofNat_of_zero_le hnonneg
    obtain rfl : n = (k : Int) + 1 := by omega
    refine ten_zpow_le_two_zpow (p := 59) (r := 196) (by decide) (by push_cast; omega) ?_
    rw [add_sub_cancel_right, zpow_natCast, zpow_natCast]
    exact pow_le_pow_left₀ (by positivity) (by norm_num) k

lemma two_zpow_le_ratio {num den : Nat} (hnum : 0 < num) (hden : 0 < den) :
    (2 : ℚ) ^ ((num.log2 : Int) - den.log2 - 1) ≤ num / den := by
  have hden' : (0 : ℚ) < den := by exact_mod_cast hden
  have hlow : (2 : ℚ) ^ num.log2 ≤ num := by exact_mod_cast Nat.log2_self_le hnum.ne'
  have hhigh : (den : ℚ) ≤ 2 ^ (den.log2 + 1) := by exact_mod_cast Nat.lt_log2_self.le
  have hsplit : (2 : ℚ) ^ ((num.log2 : Int) - den.log2 - 1) * 2 ^ (den.log2 + 1) =
      2 ^ num.log2 := by
    rw [← zpow_natCast, ← zpow_natCast, ← zpow_add₀ two_ne_zero]
    congr 1
    push_cast
    ring
  rw [le_div_iff₀ hden']
  calc (2 : ℚ) ^ ((num.log2 : Int) - den.log2 - 1) * den
      ≤ 2 ^ ((num.log2 : Int) - den.log2 - 1) * 2 ^ (den.log2 + 1) :=
        mul_le_mul_of_nonneg_left hhigh (by positivity)
    _ = 2 ^ num.log2 := hsplit
    _ ≤ num := hlow

lemma ten_zpow_magnitude_le {num den : Nat} (hnum : 0 < num) (hden : 0 < den)
    (hlow : -1100 ≤ (num.log2 : Int) - den.log2) (hhigh : (num.log2 : Int) - den.log2 ≤ 1100) :
    (10 : ℚ) ^ magnitude num den ≤ num / den := by
  -- A step up is only taken to a power that the quotient reaches.
  have hstep : ∀ e : Int, (10 : ℚ) ^ e ≤ num / den →
      (10 : ℚ) ^ (if ratioLe (ratio ⟨1, e + 1⟩).1 (ratio ⟨1, e + 1⟩).2 num den then e + 1
        else e) ≤ num / den := by
    intro e he
    split
    · next hup =>
      rw [ratioLe_iff (ratio_pos _) hden, ratio_eq, value, Nat.cast_one, one_mul] at hup
      exact hup
    · exact he
  rw [magnitude]
  exact hstep _ (hstep _ (hstep _
    ((ten_zpow_estimate_le hlow hhigh).trans (two_zpow_le_ratio hnum hden))))

/-! ### The search -/

/-- The whole multiples of a power of ten in a quotient. -/
def multiplesIn (num den : Nat) (e : Int) : Nat :=
  (scaledBy 10 num den e).1 / (scaledBy 10 num den e).2

/-- Of two decimals one that passes the test, the lower one only with digits. -/
def choose (test : Nat → Nat → Bool) (nearLow : Bool) (low high : Decimal) : Option Decimal :=
  let lowOk := test low.ratio.1 low.ratio.2 && low.digits != 0
  let highOk := test high.ratio.1 high.ratio.2
  if lowOk && (nearLow || !highOk) then some low
  else if highOk then some high
  else none

section Search

variable {num den : Nat} {test : Nat → Nat → Bool}

lemma exists_neighbour?_eq_choose (num den : Nat) (e : Int) (test : Nat → Nat → Bool) :
    ∃ nearLow, neighbour? num den e test =
      choose test nearLow ⟨multiplesIn num den e, e⟩ ⟨multiplesIn num den e + 1, e⟩ :=
  ⟨_, rfl⟩

lemma test_of_choose {nearLow : Bool} {low high x : Decimal}
    (h : choose test nearLow low high = some x) : test x.ratio.1 x.ratio.2 = true := by
  unfold choose at h
  dsimp only at h
  split_ifs at h with hlow hhigh
  · cases h
    exact (Bool.and_eq_true_iff.mp (Bool.and_eq_true_iff.mp hlow).1).1
  · cases h
    exact hhigh

lemma choose_isSome {low high : Decimal} (nearLow : Bool)
    (h : (low.digits ≠ 0 ∧ test low.ratio.1 low.ratio.2 = true) ∨
      test high.ratio.1 high.ratio.2 = true) : (choose test nearLow low high).isSome := by
  unfold choose
  dsimp only
  split_ifs with hlow hhigh
  · rfl
  · rfl
  · obtain ⟨hdigits, htest⟩ := h.resolve_right hhigh
    simp [htest, hdigits, hhigh] at hlow

lemma test_of_neighbour? {e : Int} {x : Decimal} (h : neighbour? num den e test = some x) :
    test x.ratio.1 x.ratio.2 = true := by
  obtain ⟨nearLow, heq⟩ := exists_neighbour?_eq_choose num den e test
  exact test_of_choose (heq ▸ h)

/-- A search that would end with the last number of digits ends. -/
lemma test_search {top : Int} (h : (neighbour? num den (top - 16) test).isSome) (fuel : Nat) :
    test (search num den top test (fuel + 1)).ratio.1
      (search num den top test (fuel + 1)).ratio.2 = true := by
  induction fuel with
  | zero =>
    obtain ⟨x, hx⟩ := Option.isSome_iff_exists.mp h
    rw [search]
    split
    · next heq => exact test_of_neighbour? heq
    · next heq =>
      have hnone : neighbour? num den (top - 16) test = none := heq
      rw [hx] at hnone
      cases hnone
  | succ fuel ih =>
    rw [search]
    split
    · next heq => exact test_of_neighbour? heq
    · exact ih

/-- The decimals of a length that are tried lie on both sides of the number. -/
lemma multiplesIn_bounds (num : Nat) {den : Nat} (hden : 0 < den) (e : Int) :
    (⟨multiplesIn num den e, e⟩ : Decimal).value ≤ num / den ∧
      num / den < (⟨multiplesIn num den e + 1, e⟩ : Decimal).value := by
  have hpow : (0 : ℚ) < 10 ^ e := by positivity
  have hten := scaledBy_pos (by decide : 0 < 10) hden num e
  have hpos : (0 : ℚ) < (scaledBy 10 num den e).2 := by exact_mod_cast hten
  have heq := scaledBy_eq 10 num den e
  rw [Nat.cast_ofNat] at heq
  rw [value, value, ← le_div_iff₀ hpow, ← div_lt_iff₀ hpow, ← heq, le_div_iff₀ hpos,
    div_lt_iff₀ hpos]
  constructor
  · exact_mod_cast Nat.div_mul_le_self _ _
  · exact_mod_cast Nat.lt_mul_of_div_lt (Nat.lt_succ_self _) hten

end Search

/-! ### Seventeen digits -/

lemma value_normalize (fuel : Nat) (x : Decimal) : (normalize fuel x).value = x.value := by
  induction fuel generalizing x with
  | zero => rfl
  | succ fuel ih =>
    rw [normalize]
    split
    · next hzero =>
      have hdigits : (x.digits : ℚ) = (x.digits / 10 : Nat) * 10 := by
        exact_mod_cast (by omega : x.digits = x.digits / 10 * 10)
      rw [ih, value, value, hdigits, zpow_add_one₀ (by norm_num)]
      ring
    · rfl

section Shortest

variable {d : Double}

lemma absRatio_fst_pos (hd : 0 < d.magnitude) : 0 < d.absRatio.1 := by
  have hpos := significand_pos hd
  unfold Double.absRatio
  split
  · exact Nat.mul_pos hpos (Nat.pow_pos Nat.two_pos)
  · exact hpos

lemma absRatio_log2_bounds (hfinite : d.isFinite = true) (hd : 0 < d.magnitude) :
    -1100 ≤ (d.absRatio.1.log2 : Int) - d.absRatio.2.log2 ∧
      (d.absRatio.1.log2 : Int) - d.absRatio.2.log2 ≤ 1100 := by
  have hpos := significand_pos hd
  have hlt : d.significand < 2 ^ 53 := by
    rw [Double.significand_eq]
    exact Double.stepSignificand_lt _
  have hfield : d.exponentField < 2047 := by
    have hmod : d.exponentField < 2048 := Nat.mod_lt _ (by decide)
    have hne : d.exponentField ≠ 2047 := bne_iff_ne.mp hfinite
    omega
  have hexp : -1074 ≤ d.exponent ∧ d.exponent ≤ 971 := by
    unfold Double.exponent
    split <;> omega
  unfold Double.absRatio
  split
  · have hone : Nat.log2 1 = 0 := by decide
    have hnum : d.significand * 2 ^ d.exponent.toNat < 2 ^ (53 + d.exponent.toNat) := by
      rw [pow_add]
      exact Nat.mul_lt_mul_of_pos_right hlt (Nat.two_pow_pos _)
    have hlog : (d.significand * 2 ^ d.exponent.toNat).log2 < 53 + d.exponent.toNat :=
      (Nat.log2_lt (Nat.mul_pos hpos (Nat.two_pow_pos _)).ne').mpr hnum
    change -1100 ≤ ((d.significand * 2 ^ d.exponent.toNat).log2 : Int) - Nat.log2 1 ∧
      ((d.significand * 2 ^ d.exponent.toNat).log2 : Int) - Nat.log2 1 ≤ 1100
    rw [hone]
    omega
  · have hlog : d.significand.log2 < 53 := (Nat.log2_lt hpos.ne').mpr hlt
    change -1100 ≤ (d.significand.log2 : Int) - (2 ^ (-d.exponent).toNat).log2 ∧
      (d.significand.log2 : Int) - (2 ^ (-d.exponent).toNat).log2 ≤ 1100
    rw [Nat.log2_two_pow]
    omega

/-- Of the decimals with seventeen digits around a double one is rounded to it. -/
lemma neighbour?_isSome (hd : 0 < d.magnitude) {top : Int} (htop : 10 ^ top ≤ d.absValue) :
    (neighbour? d.absRatio.1 d.absRatio.2 (top - 16)
      (readsBack d.significand d.exponent (isNarrow d))).isSome := by
  obtain ⟨nearLow, heq⟩ := exists_neighbour?_eq_choose d.absRatio.1 d.absRatio.2 (top - 16)
    (readsBack d.significand d.exponent (isNarrow d))
  obtain ⟨hlow, hhigh⟩ := multiplesIn_bounds d.absRatio.1 d.absRatio_pos (top - 16)
  have hpow : (0 : ℚ) < 10 ^ (top - 16) := by positivity
  have hsplit : (10 : ℚ) ^ top = 10 ^ 16 * 10 ^ (top - 16) := by
    rw [← zpow_natCast, ← zpow_add₀ (by norm_num)]
    congr 1
    push_cast
    ring
  rw [hsplit] at htop
  rw [heq]
  apply choose_isSome
  rw [readsBack_iff hd (ratio_pos _), readsBack_iff hd (ratio_pos _), ratio_eq, ratio_eq]
  generalize multiplesIn d.absRatio.1 d.absRatio.2 (top - 16) = low at hlow hhigh ⊢
  rw [d.absRatio_eq, value] at hlow hhigh
  rw [value, value]
  push_cast at hhigh ⊢
  rw [d.absValue_eq] at htop hlow hhigh
  -- The number has at least 10^16 parts of this size, more than 2^53, so that the nearer of the two
  -- neighbours is within the last of 54 bits.
  rcases le_or_gt (stepValue d.magnitude - low * 10 ^ (top - 16)) (10 ^ (top - 16) / 2) with
    hnear | hfar
  · refine .inl ⟨?_, RoundsTo.of_near hd (by linarith) (by linarith)⟩
    rintro rfl
    rw [Nat.cast_zero] at hhigh
    linarith
  · exact .inr (RoundsTo.of_near hd (by linarith) (by linarith))

/-- The shortest decimal of a double is rounded to it. -/
theorem shortest_roundsTo (hfinite : d.isFinite = true) (hd : 0 < d.magnitude) :
    RoundsTo d.magnitude (shortest d).value := by
  have hzero : ¬d.isZero = true := fun hzero => hd.ne' (Double.isZero_iff.mp hzero)
  obtain ⟨hlow, hhigh⟩ := absRatio_log2_bounds hfinite hd
  have htop := ten_zpow_magnitude_le (absRatio_fst_pos hd) d.absRatio_pos hlow hhigh
  rw [d.absRatio_eq] at htop
  have htest := test_search (neighbour?_isSome hd htop) 16
  rw [readsBack_iff hd (ratio_pos _), ratio_eq] at htest
  rw [shortest, if_neg hzero, value_normalize]
  exact htest

/-- The double after one needs all seventeen digits. -/
example : shortest ⟨0x3ff0000000000001⟩ = ⟨10000000000000002, -16⟩ := by decide +kernel

lemma value_shortest_of_magnitude_eq_zero (hd : d.magnitude = 0) : (shortest d).value = 0 := by
  rw [shortest, if_pos (Double.isZero_iff.mpr hd), value, Nat.cast_zero, zero_mul]

end Shortest

/-- Doubles with the same shortest decimal differ in their signs at most. -/
theorem magnitude_eq_of_value_shortest_eq {a b : Double} (ha : a.isFinite = true)
    (hb : b.isFinite = true) (h : (shortest a).value = (shortest b).value) :
    a.magnitude = b.magnitude := by
  rcases Nat.eq_zero_or_pos a.magnitude with hazero | hapos
  · rcases Nat.eq_zero_or_pos b.magnitude with hbzero | hbpos
    · rw [hazero, hbzero]
    · have hpos := (shortest_roundsTo hb hbpos).pos
      rw [← h, value_shortest_of_magnitude_eq_zero hazero] at hpos
      exact absurd hpos (lt_irrefl 0)
  · have hround := shortest_roundsTo ha hapos
    rcases Nat.eq_zero_or_pos b.magnitude with hbzero | hbpos
    · have hpos := hround.pos
      rw [h, value_shortest_of_magnitude_eq_zero hbzero] at hpos
      exact absurd hpos (lt_irrefl 0)
    · exact hround.unique (h ▸ shortest_roundsTo hb hbpos)

end Decimal

end GatedRelay
