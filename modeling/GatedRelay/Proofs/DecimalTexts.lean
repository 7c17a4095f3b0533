import GatedRelay.Json.Parser
import GatedRelay.Proofs.Numerals
import Mathlib.Algebra.Order.Field.Power
import Mathlib.Data.Rat.Cast.Order
import Mathlib.Tactic.FieldSimp
import Mathlib.Tactic.Positivity
import Mathlib.Tactic.Ring

/-!
# The numbers that decimals denote

A decimal is read exactly: digits before and after its point and an exponent are a rational number.
Texts of decimals that differ in their numbers are different texts.
-/

namespace GatedRelay

namespace Numeral

lemma two_le_ten : 2 ≤ 10 := by decide

/-- The text of digits. -/
def digitText (ds : List Nat) : List Char := ds.map digitChar

lemma decimal_eq_digitText (n : Nat) : decimal n = digitText (digits 10 (by decide) n) := rfl

/-- Digits in front count by the number of those that follow. -/
lemma valueFrom_eq (base n : Nat) (ds : List Nat) :
    valueFrom base n ds = n * base ^ ds.length + valueFrom base 0 ds := by
  induction ds generalizing n with
  | nil => simp [valueFrom]
  | cons d ds ih =>
    have hstep : ∀ m, valueFrom base m (d :: ds) = valueFrom base (m * base + d) ds := fun _ => rfl
    rw [hstep, hstep, ih (n * base + d), ih (0 * base + d), List.length_cons, pow_succ]
    ring

lemma valueFrom_append (base : Nat) (ds es : List Nat) :
    valueFrom base 0 (ds ++ es) = valueFrom base 0 ds * base ^ es.length + valueFrom base 0 es := by
  have hsplit : valueFrom base 0 (ds ++ es) = valueFrom base (valueFrom base 0 ds) es :=
    List.foldl_append
  rw [hsplit, valueFrom_eq]

lemma valueFrom_replicate_zero (base k : Nat) : valueFrom base 0 (List.replicate k 0) = 0 := by
  induction k with
  | zero => rfl
  | succ k ih =>
    have hstep : valueFrom base 0 (List.replicate (k + 1) 0) =
        valueFrom base (0 * base + 0) (List.replicate k 0) := rfl
    rw [hstep, Nat.zero_mul, ih]

/-- Zeros in front do not count. -/
lemma valueFrom_zeros_append (base k : Nat) (ds : List Nat) :
    valueFrom base 0 (List.replicate k 0 ++ ds) = valueFrom base 0 ds := by
  rw [valueFrom_append, valueFrom_replicate_zero, Nat.zero_mul, Nat.zero_add]

lemma digits_ne_nil (n : Nat) : digits 10 (by decide) n ≠ [] := by
  intro hnil
  exact decimal_ne_nil n (congrArg (List.map digitChar) hnil)

lemma lt_of_mem_decimalDigits {n d : Nat} (hd : d ∈ digits 10 (by decide) n) : d < 10 :=
  lt_of_mem_digits _ hd

lemma isDigit_of_mem_digitText {ds : List Nat} (hds : ∀ d ∈ ds, d < 10) {c : Char}
    (hc : c ∈ digitText ds) : isDigit c = true := by
  obtain ⟨d, hd, rfl⟩ := List.mem_map.mp hc
  exact digitChar_isDigit (hds d hd)

/-- What cannot go on with digits. -/
def EndsDigits (cs : List Char) : Prop := ∀ c ∈ cs.head?, isDigit c = false

lemma EndsDigits.of_cons {c : Char} (hc : isDigit c = false) (rest : List Char) :
    EndsDigits (c :: rest) := by
  intro d hd
  cases hd
  exact hc

lemma digitRun_digitText {ds : List Nat} (hds : ∀ d ∈ ds, d < 10) {rest : List Char}
    (hrest : EndsDigits rest) : Json.digitRun (digitText ds ++ rest) = (ds, rest) := by
  have hdigits : ∀ c ∈ digitText ds, isDigit c = true :=
    fun c hc => isDigit_of_mem_digitText hds hc
  have hstop : rest.takeWhile isDigit = [] ∧ rest.dropWhile isDigit = rest := by
    cases rest with
    | nil => exact ⟨rfl, rfl⟩
    | cons c rest =>
      have hc : ¬isDigit c = true := by simp [hrest c rfl]
      exact ⟨List.takeWhile_cons_of_neg hc, List.dropWhile_cons_of_neg hc⟩
  have hvalues : (digitText ds).map (fun c => c.toNat - 48) = ds := by
    rw [digitText, List.map_map]
    exact (List.map_congr_left fun d hd => toNat_digitChar (hds d hd)).trans (List.map_id ds)
  rw [Json.digitRun, List.takeWhile_append_of_pos hdigits, List.dropWhile_append_of_pos hdigits,
    hstop.1, hstop.2, List.append_nil, hvalues]

/-! ### Reading -/

/-- The text of a fraction, none without digits. -/
def fractionText (ds : List Nat) : List Char := if ds = [] then [] else '.' :: digitText ds

/-- The digits before and after a point at the front, and what follows them. -/
def digitsAroundPoint (cs : List Char) : List Nat × List Nat × List Char :=
  match Json.digitRun cs with
  | (whole, '.' :: rest) => (whole, Json.digitRun rest)
  | (whole, rest) => (whole, [], rest)

/-- The number that digits around a point stand for, scaled by a power of ten. -/
def scaledValue (whole fraction : List Nat) (exponent : Int) : ℚ :=
  valueFrom 10 0 (whole ++ fraction) * 10 ^ (exponent - fraction.length)

/-- The number that a decimal without a sign denotes at the front of a text, and what follows it. -/
def unsignedAt? (cs : List Char) : Option (ℚ × List Char) :=
  let (whole, fraction, rest) := digitsAroundPoint cs
  (Json.exponentPart? rest).map fun p => (scaledValue whole fraction (p.1.getD 0), p.2)

/-- The number that a decimal denotes at the front of a text, and what follows it. -/
def decimalAt? (cs : List Char) : Option (ℚ × List Char) :=
  match cs with
  | '-' :: rest => (unsignedAt? rest).map fun p => (-p.1, p.2)
  | _ => unsignedAt? cs

lemma decimalAt?_of_head_ne {cs : List Char} (h : cs.head? ≠ some '-') :
    decimalAt? cs = unsignedAt? cs := by
  rw [decimalAt?]
  rintro rest rfl
  exact h rfl

def signText (negative : Bool) : List Char := if negative then ['-'] else []

section Reading

variable {whole fraction : List Nat} (hwhole : ∀ d ∈ whole, d < 10)
  (hfraction : ∀ d ∈ fraction, d < 10) {after rest : List Char} (hafter : EndsDigits after)
  {e : Option Int}
include hwhole hfraction hafter

lemma digitsAroundPoint_text (hpoint : after.head? ≠ some '.') :
    digitsAroundPoint (digitText whole ++ (fractionText fraction ++ after)) =
      (whole, fraction, after) := by
  rw [digitsAroundPoint, fractionText]
  split_ifs with hnone
  · subst hnone
    rw [List.nil_append, digitRun_digitText hwhole hafter]
    split
    · next heq =>
      cases heq
      exact absurd rfl hpoint
    · next heq =>
      cases heq
      rfl
  · rw [List.cons_append, digitRun_digitText hwhole (.of_cons rfl _)]
    exact congrArg (Prod.mk whole) (digitRun_digitText hfraction hafter)

lemma unsignedAt?_text (hpoint : after.head? ≠ some '.')
    (he : Json.exponentPart? after = some (e, rest)) :
    unsignedAt? (digitText whole ++ (fractionText fraction ++ after)) =
      some (scaledValue whole fraction (e.getD 0), rest) := by
  rw [unsignedAt?, digitsAroundPoint_text hwhole hfraction hafter hpoint]
  dsimp only
  rw [he, Option.map_some]

lemma decimalAt?_text (hne : whole ≠ []) (hpoint : after.head? ≠ some '.')
    (he : Json.exponentPart? after = some (e, rest)) (negative : Bool) :
    decimalAt? (signText negative ++ (digitText whole ++ (fractionText fraction ++ after))) =
      some ((if negative then -scaledValue whole fraction (e.getD 0)
        else scaledValue whole fraction (e.getD 0)), rest) := by
  have hread := unsignedAt?_text hwhole hfraction hafter hpoint he
  cases negative with
  | true =>
    have hminus : decimalAt? ('-' :: (digitText whole ++ (fractionText fraction ++ after))) =
        (unsignedAt? (digitText whole ++ (fractionText fraction ++ after))).map
          fun p => (-p.1, p.2) := rfl
    rw [signText, if_pos rfl, List.singleton_append, hminus, hread]
    rfl
  | false =>
    obtain ⟨d, ds, rfl⟩ := List.exists_cons_of_ne_nil hne
    have hdigit : isDigit (digitChar d) = true := digitChar_isDigit (hwhole d List.mem_cons_self)
    have hhead : (digitText (d :: ds) ++ (fractionText fraction ++ after)).head? ≠ some '-' := by
      intro heq
      rw [Option.some.inj heq] at hdigit
      cases hdigit
    rw [signText, if_neg Bool.false_ne_true, List.nil_append, decimalAt?_of_head_ne hhead, hread]
    rfl

end Reading

end Numeral

end GatedRelay
