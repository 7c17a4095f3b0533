import GatedRelay.Expr.Convert
import GatedRelay.Expr.Format
import GatedRelay.Proofs.DecimalTexts
import Mathlib.Data.List.DropRight
import Mathlib.Tactic.Linarith

/-!
# What the text of a duration says

The text is a decimal number of seconds. The whole seconds carry the sign, so that a duration
between minus one second and zero has the text of the positive one.
-/

namespace GatedRelay

open Numeral

namespace Duration

/-- The text of a number of seconds: whole seconds, and a fraction that does not end in zero. -/
def WritesSeconds (q : ℚ) (text : List Char) : Prop :=
  ∃ (whole : Nat) (fraction : List Nat),
    (∀ d ∈ fraction, d < 10) ∧ fraction.getLast? ≠ some 0 ∧
    |q| = whole + (valueFrom 10 0 fraction : ℚ) / 10 ^ fraction.length ∧
    text = signText (decide (q < 0)) ++ (decimal whole ++ (fractionText fraction ++ ['s']))

/-- The number is read back from its text, so a text is that of one number only. -/
lemma WritesSeconds.decimalAt? {q : ℚ} {text : List Char} (h : WritesSeconds q text) :
    Numeral.decimalAt? text = some (q, ['s']) := by
  obtain ⟨whole, fraction, hfraction, -, habs, rfl⟩ := h
  have hends : EndsDigits ['s'] := .of_cons rfl []
  have hread := decimalAt?_text (fun _ => lt_of_mem_decimalDigits) hfraction hends
    (digits_ne_nil whole) (by decide) rfl (decide (q < 0))
  have hvalue : scaledValue (digits 10 (by decide) whole) fraction 0 = |q| := by
    rw [habs, scaledValue, valueFrom_append, valueFrom_digits, zero_sub, zpow_neg, zpow_natCast]
    push_cast
    field_simp
  rw [decimal_eq_digitText, hread, Option.getD_none, hvalue]
  by_cases hneg : q < 0
  · rw [decide_eq_true hneg, if_pos rfl, abs_of_neg hneg, neg_neg]
  · rw [decide_eq_false hneg, if_neg Bool.false_ne_true, abs_of_nonneg (not_lt.mp hneg)]

/-! ### Fractions -/

lemma digitChar_eq_zero_iff {d : Nat} (hd : d < 10) : digitChar d = '0' ↔ d = 0 := by
  revert d
  decide

lemma dropWhile_zero_digitText {ds : List Nat} (hds : ∀ d ∈ ds, d < 10) :
    (digitText ds).dropWhile (· == '0') = digitText (ds.dropWhile (· == 0)) := by
  induction ds with
  | nil => rfl
  | cons d ds ih =>
    obtain ⟨hd, hrest⟩ := List.forall_mem_cons.mp hds
    rw [digitText, List.map_cons]
    by_cases hzero : d = 0
    · have hchar : digitChar d = '0' := (digitChar_eq_zero_iff hd).mpr hzero
      rw [List.dropWhile_cons_of_pos (by simp [hchar]),
        List.dropWhile_cons_of_pos (by simp [hzero])]
      exact ih hrest
    · rw [List.dropWhile_cons_of_neg (by simp [digitChar_eq_zero_iff hd, hzero]),
        List.dropWhile_cons_of_neg (by simp [hzero])]
      rfl

/-- The digits of a number with zeros in front up to a width. -/
def paddedDigits (width n : Nat) : List Nat :=
  List.replicate (width - (decimal n).length) 0 ++ digits 10 two_le_ten n

lemma padded_eq_digitText (width n : Nat) : padded width n = digitText (paddedDigits width n) := by
  rw [padded, padLeft, paddedDigits, digitText, List.map_append, List.map_replicate]
  rfl

lemma lt_of_mem_paddedDigits {width n d : Nat} (hd : d ∈ paddedDigits width n) : d < 10 := by
  rcases List.mem_append.mp hd with hd | hd
  · rw [List.eq_of_mem_replicate hd]
    decide
  · exact lt_of_mem_decimalDigits hd

lemma length_paddedDigits {width n : Nat} (hwidth : 1 ≤ width) (hn : n < 10 ^ width) :
    (paddedDigits width n).length = width := by
  have hle := length_digits_le two_le_ten hwidth hn
  have hlength : (decimal n).length = (digits 10 two_le_ten n).length := List.length_map _
  rw [paddedDigits, List.length_append, List.length_replicate]
  omega

/-- The digits of a fraction without the zeros at its end. -/
def fractionDigits (width nanos : Nat) : List Nat := (paddedDigits width nanos).rdropWhile (· == 0)

lemma lt_of_mem_fractionDigits {width n d : Nat} (hd : d ∈ fractionDigits width n) : d < 10 :=
  lt_of_mem_paddedDigits ((List.rdropWhile_prefix _ _).subset hd)

lemma getLast?_fractionDigits (width n : Nat) : (fractionDigits width n).getLast? ≠ some 0 := by
  intro hlast
  have hne : fractionDigits width n ≠ [] := by
    intro hnil
    rw [hnil] at hlast
    cases hlast
  have hnot := List.rdropWhile_last_not (· == 0) (paddedDigits width n) hne
  rw [List.getLast?_eq_getLast_of_ne_nil hne, Option.some_inj] at hlast
  exact hnot (by simpa [fractionDigits] using hlast)

/-- What is dropped are zeros. -/
lemma exists_paddedDigits_eq (width n : Nat) :
    ∃ k, paddedDigits width n = fractionDigits width n ++ List.replicate k 0 := by
  have hsplit :=
    List.takeWhile_append_dropWhile (p := (· == 0)) (l := (paddedDigits width n).reverse)
  have hzeros : ((paddedDigits width n).reverse.takeWhile (· == 0)).reverse =
      List.replicate ((paddedDigits width n).reverse.takeWhile (· == 0)).length 0 := by
    rw [← List.length_reverse, List.eq_replicate_length]
    intro d hd
    simpa using List.mem_takeWhile_imp (List.mem_reverse.mp hd)
  refine ⟨((paddedDigits width n).reverse.takeWhile (· == 0)).length, ?_⟩
  rw [← hzeros, fractionDigits, List.rdropWhile, ← List.reverse_append, hsplit,
    List.reverse_reverse]

/-- The digits of a fraction stand for the same part of one as the padded ones. -/
lemma fractionDigits_value {width n : Nat} (hwidth : 1 ≤ width) (hn : n < 10 ^ width) :
    (valueFrom 10 0 (fractionDigits width n) : ℚ) / 10 ^ (fractionDigits width n).length =
      n / 10 ^ width := by
  obtain ⟨k, hk⟩ := exists_paddedDigits_eq width n
  have hvalue : valueFrom 10 0 (paddedDigits width n) = n := by
    rw [paddedDigits, valueFrom_zeros_append, valueFrom_digits]
  have hlength := length_paddedDigits hwidth hn
  rw [hk, valueFrom_append, valueFrom_replicate_zero, List.length_replicate, Nat.add_zero] at hvalue
  rw [hk, List.length_append, List.length_replicate] at hlength
  have hpow : (10 : ℚ) ^ width = 10 ^ (fractionDigits width n).length * 10 ^ k := by
    rw [← pow_add, hlength]
  have hcast : (n : ℚ) = valueFrom 10 0 (fractionDigits width n) * 10 ^ k := by
    exact_mod_cast hvalue.symm
  rw [hpow, hcast, mul_div_mul_right _ _ (by positivity)]

lemma fractionDigits_eq_nil_iff {width n : Nat} (hwidth : 1 ≤ width) (hn : n < 10 ^ width) :
    fractionDigits width n = [] ↔ n = 0 := by
  constructor
  · intro hnil
    have hvalue := fractionDigits_value hwidth hn
    rw [hnil] at hvalue
    have hpow : (10 : ℚ) ^ width ≠ 0 := by positivity
    have hzero : (n : ℚ) / 10 ^ width = 0 := by rw [← hvalue]; simp [valueFrom]
    exact_mod_cast (div_eq_zero_iff.mp hzero).resolve_right hpow
  · rintro rfl
    rw [fractionDigits, List.rdropWhile_eq_nil_iff]
    intro d hd
    rcases List.mem_append.mp hd with hd | hd
    · simp [List.eq_of_mem_replicate hd]
    · rw [digits_of_lt (by decide) (by decide), List.mem_singleton] at hd
      simp [hd]

lemma fraction_eq_fractionText {width n : Nat} (hwidth : 1 ≤ width) (hn : n < 10 ^ width) :
    fraction width n = fractionText (fractionDigits width n) := by
  rw [fraction, fractionText]
  by_cases hzero : n = 0
  · rw [if_pos hzero, if_pos ((fractionDigits_eq_nil_iff hwidth hn).mpr hzero)]
  · rw [if_neg hzero, if_neg (mt (fractionDigits_eq_nil_iff hwidth hn).mp hzero)]
    have hreverse : ∀ d ∈ (paddedDigits width n).reverse, d < 10 :=
      fun d hd => lt_of_mem_paddedDigits (List.mem_reverse.mp hd)
    have hdrop := dropWhile_zero_digitText hreverse
    rw [digitText, List.map_reverse] at hdrop
    rw [padded_eq_digitText, fractionDigits, List.rdropWhile, digitText, digitText,
      List.map_reverse]
    exact congrArg (fun cs => '.' :: cs.reverse) hdrop

/-! ### Seconds -/

/-- The number of nanoseconds that the text of a duration says. -/
def shownNanos (d : Duration) : Int :=
  if -1000000000 < d.nanos ∧ d.nanos < 0 then -d.nanos else d.nanos

/-- Whole seconds are cut off towards zero. -/
lemma seconds_eq (d : Duration) :
    d.seconds = if d.nanos < 0 then -(-d.nanos / 1000000000) else d.nanos / 1000000000 := by
  rw [seconds]
  split
  · next hneg =>
    rw [← Int.tdiv_eq_ediv_of_nonneg (by omega), Int.neg_tdiv, neg_neg]
  · next hpos => exact Int.tdiv_eq_ediv_of_nonneg (not_lt.mp hpos)

lemma natAbs_subsecondNanos (d : Duration) :
    d.subsecondNanos.natAbs = d.nanos.natAbs % 1000000000 :=
  Int.natAbs_tmod d.nanos 1000000000

lemma natAbs_shownNanos (d : Duration) :
    d.shownNanos.natAbs = d.seconds.natAbs * 1000000000 + d.subsecondNanos.natAbs := by
  rw [natAbs_subsecondNanos, seconds_eq, shownNanos]
  split <;> split <;> omega

lemma seconds_neg_iff (d : Duration) : d.seconds < 0 ↔ d.shownNanos < 0 := by
  rw [seconds_eq, shownNanos]
  split <;> split <;> omega

lemma shownNanos_neg_iff (d : Duration) : (d.shownNanos / 10 ^ 9 : ℚ) < 0 ↔ d.seconds < 0 := by
  rw [seconds_neg_iff, div_neg_iff]
  norm_num

/-- Every text is that of a number of seconds. -/
lemma writesSeconds_secondsText (d : Duration) :
    WritesSeconds (d.shownNanos / 10 ^ 9) d.secondsText := by
  have hsub : d.subsecondNanos.natAbs < 10 ^ 9 := by
    rw [natAbs_subsecondNanos]
    omega
  refine ⟨d.seconds.natAbs, fractionDigits 9 d.subsecondNanos.natAbs,
    fun _ => lt_of_mem_fractionDigits, getLast?_fractionDigits _ _, ?_, ?_⟩
  · have habs : ((d.shownNanos.natAbs : Nat) : ℚ) =
        d.seconds.natAbs * 10 ^ 9 + d.subsecondNanos.natAbs := by
      rw [natAbs_shownNanos]
      push_cast
      norm_num
    rw [fractionDigits_value (by decide) hsub, abs_div, ← Int.cast_abs, Int.abs_eq_natAbs,
      Int.cast_natCast, habs, abs_of_pos (by positivity)]
    field_simp
  · rw [secondsText, decimalInt, fraction_eq_fractionText (by decide) hsub]
    by_cases hneg : d.seconds < 0
    · rw [if_pos hneg, decide_eq_true ((shownNanos_neg_iff d).mpr hneg)]
      simp [signText]
    · rw [if_neg hneg, decide_eq_false (mt (shownNanos_neg_iff d).mp hneg)]
      simp [signText]

lemma WritesSeconds.unique {p q : ℚ} {text : List Char} (hp : WritesSeconds p text)
    (hq : WritesSeconds q text) : p = q := by
  have hread := hp.decimalAt?
  rw [hq.decimalAt?] at hread
  exact (Prod.mk.inj (Option.some.inj hread)).1.symm

lemma writesSeconds_iff {d : Duration} {n : Int} :
    WritesSeconds (n / 10 ^ 9) d.secondsText ↔ n = d.shownNanos := by
  constructor
  · intro h
    have heq := h.unique (writesSeconds_secondsText d)
    have hcast : (n : ℚ) = d.shownNanos := by
      field_simp at heq
      exact heq
    exact_mod_cast hcast
  · rintro rfl
    exact writesSeconds_secondsText d

lemma secondsText_eq_iff {d e : Duration} :
    d.secondsText = e.secondsText ↔ d.shownNanos = e.shownNanos := by
  constructor
  · intro h
    exact writesSeconds_iff.mp (h ▸ writesSeconds_secondsText d)
  · intro h
    have hseconds : d.seconds = e.seconds := by
      rw [shownNanos, shownNanos] at h
      rw [seconds_eq, seconds_eq]
      split_ifs at h ⊢ <;> omega
    have hsub : d.subsecondNanos.natAbs = e.subsecondNanos.natAbs := by
      rw [shownNanos, shownNanos] at h
      rw [natAbs_subsecondNanos, natAbs_subsecondNanos]
      split_ifs at h <;> omega
    rw [secondsText, secondsText, hseconds, hsub]

lemma shownNanos_eq_iff {d e : Duration} : d.shownNanos = e.shownNanos ↔
    d = e ∨ d.nanos = -e.nanos ∧ d.nanos.natAbs < 1000000000 := by
  obtain ⟨m⟩ := d
  obtain ⟨n⟩ := e
  simp only [mk.injEq, shownNanos]
  split_ifs <;> omega

end Duration

namespace Expr

open Duration (WritesSeconds)

lemma pieces_percentS : Format.pieces ['%', 's'] = [.value none 's'] := by
  decide +kernel

/-- The text of a duration is the decimal of its seconds unless it lies between minus one second and
zero; then it is the text of the positive duration. No other durations share a text. -/
theorem duration_text_exact (d : Duration) :
    (WritesSeconds (d.nanos / 10 ^ 9) d.secondsText ↔ ¬(-1000000000 < d.nanos ∧ d.nanos < 0)) ∧
    (-1000000000 < d.nanos ∧ d.nanos < 0 → WritesSeconds (-d.nanos / 10 ^ 9) d.secondsText) ∧
    (∀ e : Duration, d.secondsText = e.secondsText ↔
      d = e ∨ d.nanos = -e.nanos ∧ d.nanos.natAbs < 1000000000) ∧
    Value.toJson (.duration d) = .ok (.string (String.ofList d.secondsText)) ∧
    Format.format ['%', 's'] [.duration d] = .ok d.secondsText := by
  refine ⟨?_, ?_, ?_, rfl, ?_⟩
  · rw [Duration.writesSeconds_iff, Duration.shownNanos]
    split <;> omega
  · intro h
    have hshown : d.shownNanos = -d.nanos := if_pos h
    have hwrites := Duration.writesSeconds_secondsText d
    rw [hshown] at hwrites
    exact_mod_cast hwrites
  · intro e
    rw [Duration.secondsText_eq_iff, Duration.shownNanos_eq_iff]
  · rw [Format.format, pieces_percentS]
    simp [Format.fill, Format.argument, Value.display, Except.map]

/-- Half a second and minus half a second have one text. -/
theorem half_second_loses_sign :
    (⟨-500000000⟩ : Duration).secondsText = ['0', '.', '5', 's'] ∧
      (⟨500000000⟩ : Duration).secondsText = ['0', '.', '5', 's'] ∧
      ¬WritesSeconds ((-500000000 : Int) / 10 ^ 9) (⟨-500000000⟩ : Duration).secondsText := by
  refine ⟨?_, ?_, ?_⟩
  · decide +kernel
  · decide +kernel
  · rw [Duration.writesSeconds_iff]
    decide

end Expr

end GatedRelay
