import GatedRelay.Text.Numeral
import Mathlib.Algebra.Group.Nat.Defs
import Mathlib.Data.List.Basic
import Mathlib.Data.List.Induction

/-!
# The digits of a number

They are below the base, they make up the number again, and no zero stands in front.
-/

namespace GatedRelay.Numeral

/-- The number that digits make up after a number in front of them. -/
def valueFrom (base : Nat) : Nat → List Nat → Nat := List.foldl fun acc d => acc * base + d

lemma le_valueFrom {base : Nat} (h : 1 ≤ base) (n : Nat) (ds : List Nat) :
    n ≤ valueFrom base n ds := by
  induction ds generalizing n with
  | nil => exact Nat.le_refl n
  | cons d ds ih =>
    calc n ≤ n * base := Nat.le_mul_of_pos_right n h
      _ ≤ n * base + d := Nat.le_add_right _ _
      _ ≤ valueFrom base (n * base + d) ds := ih _

lemma valueFrom_concat (base n : Nat) (ds : List Nat) (d : Nat) :
    valueFrom base n (ds ++ [d]) = valueFrom base n ds * base + d :=
  List.foldl_concat ..

lemma valueFrom_pos {base : Nat} (h : 1 ≤ base) {c : Nat} (hc : 0 < c) (ds : List Nat) :
    0 < valueFrom base 0 (c :: ds) := by
  have hfront : valueFrom base 0 (c :: ds) = valueFrom base (0 * base + c) ds := rfl
  rw [hfront, Nat.zero_mul, Nat.zero_add]
  exact Nat.lt_of_lt_of_le hc (le_valueFrom h c ds)

section Digits

variable {base : Nat} (h : 2 ≤ base)

lemma digits_of_lt {n : Nat} (hn : n < base) : digits base h n = [n] := by
  rw [digits, digitsOnto, if_pos hn]

lemma valueFrom_digits (n : Nat) : valueFrom base 0 (digits base h n) = n := by
  induction n using Nat.strongRecOn with
  | ind n ih =>
    by_cases hn : n < base
    · rw [digits_of_lt h hn]
      simp [valueFrom]
    · have smaller : n / base < n := Nat.div_lt_self (by omega) h
      have hquot : valueFrom base 0 (digits base h (n / base)) = n / base := ih _ smaller
      rw [digits_of_base_le base h n (Nat.not_lt.mp hn), valueFrom, List.foldl_append]
      rw [valueFrom] at hquot
      rw [hquot]
      exact Nat.div_add_mod' n base

lemma lt_of_mem_digits {n d : Nat} (hd : d ∈ digits base h n) : d < base := by
  induction n using Nat.strongRecOn with
  | ind n ih =>
    by_cases hn : n < base
    · rw [digits_of_lt h hn, List.mem_singleton] at hd
      exact hd ▸ hn
    · rw [digits_of_base_le base h n (Nat.not_lt.mp hn), List.mem_append] at hd
      rcases hd with hd | hd
      · exact ih _ (Nat.div_lt_self (by omega) h) hd
      · rw [List.mem_singleton.mp hd]
        exact Nat.mod_lt n (by omega)

/-- No zero stands in front of other digits. -/
lemma digits_eq_singleton_or (n : Nat) :
    digits base h n = [n] ∨ ∃ d ds, digits base h n = d :: ds ∧ d ≠ 0 := by
  induction n using Nat.strongRecOn with
  | ind n ih =>
    by_cases hn : n < base
    · exact .inl (digits_of_lt h hn)
    · right
      have hpos : 0 < n / base := Nat.div_pos (Nat.not_lt.mp hn) (by omega)
      rw [digits_of_base_le base h n (Nat.not_lt.mp hn)]
      rcases ih _ (Nat.div_lt_self (by omega) h) with heq | ⟨d, ds, heq, hd⟩
      · exact ⟨n / base, [n % base], by rw [heq]; rfl, by omega⟩
      · exact ⟨d, ds ++ [n % base], by rw [heq]; rfl, hd⟩

lemma digits_mul_add {n d : Nat} (hn : 0 < n) (hd : d < base) :
    digits base h (n * base + d) = digits base h n ++ [d] := by
  have hle : base ≤ n * base := Nat.le_mul_of_pos_left base hn
  have hquot : (n * base + d) / base = n := by
    rw [Nat.mul_comm, Nat.mul_add_div (by omega), Nat.div_eq_of_lt hd, Nat.add_zero]
  have hrem : (n * base + d) % base = d := by
    rw [Nat.mul_comm, Nat.mul_add_mod, Nat.mod_eq_of_lt hd]
  rw [digits_of_base_le base h _ (by omega), hquot, hrem]

/-- Digits without a zero in front are those of the number that they make up. -/
lemma digits_valueFrom {ds : List Nat} (hne : ds ≠ []) (hds : ∀ d ∈ ds, d < base)
    (hhead : ds.head? = some 0 → ds = [0]) : digits base h (valueFrom base 0 ds) = ds := by
  induction ds using List.reverseRecOn with
  | nil => exact absurd rfl hne
  | append_singleton ds d ih =>
    have hd : d < base := hds d (by simp)
    rw [valueFrom_concat]
    cases ds with
    | nil =>
      have hvalue : valueFrom base 0 [] * base + d = d := by simp [valueFrom]
      rw [hvalue, digits_of_lt h hd, List.nil_append]
    | cons c ds =>
      have hc : c ≠ 0 := by
        rintro rfl
        simpa using hhead rfl
      have hdigits : digits base h (valueFrom base 0 (c :: ds)) = c :: ds :=
        ih (List.cons_ne_nil c ds) (fun e he => hds e (List.mem_append_left _ he))
          fun h0 => absurd (Option.some.inj h0) hc
      rw [digits_mul_add h (valueFrom_pos (by omega) (Nat.pos_of_ne_zero hc) ds) hd, hdigits]

lemma length_digits_le {n k : Nat} (hk : 1 ≤ k) (hn : n < base ^ k) :
    (digits base h n).length ≤ k := by
  induction n using Nat.strongRecOn generalizing k with
  | ind n ih =>
    by_cases hlt : n < base
    · rw [digits_of_lt h hlt]
      exact hk
    · have hle : base ≤ n := Nat.not_lt.mp hlt
      obtain ⟨m, rfl⟩ : ∃ m, k = m + 2 := by
        rcases k with _ | _ | m
        · omega
        · rw [Nat.pow_one] at hn
          omega
        · exact ⟨m, rfl⟩
      have hquot : n / base < base ^ (m + 1) :=
        Nat.div_lt_of_lt_mul (by rwa [Nat.mul_comm, ← Nat.pow_succ])
      have hlength := ih (n / base) (Nat.div_lt_self (by omega) h) (by omega) hquot
      rw [digits_of_base_le base h n hle, List.length_append, List.length_singleton]
      omega

lemma write_ne_nil (n : Nat) : write base h n ≠ [] := by
  intro hnil
  rcases digits_eq_singleton_or h n with he | ⟨d, ds, he, -⟩ <;> simp [write, he] at hnil

end Digits

lemma digitChar_isDigit {d : Nat} (hd : d < 10) : isDigit (digitChar d) = true := by
  revert d
  decide

lemma toNat_digitChar {d : Nat} (hd : d < 10) : (digitChar d).toNat - 48 = d := by
  revert d
  decide

lemma digitValue?_digitChar {d : Nat} (hd : d < 16) : digitValue? (digitChar d) = some d := by
  revert d
  decide

lemma digitChar_ne_zero {d : Nat} (hd : d < 16) (hpos : d ≠ 0) : digitChar d ≠ '0' := by
  revert d
  decide

/-- The digits of a base. -/
def isDigitIn (base : Nat) (c : Char) : Bool := (digitValue? c).any (· < base)

lemma readFrom_digitChar {base : Nat} (hbase : base ≤ 16) {ds : List Nat}
    (hds : ∀ d ∈ ds, d < base) (acc : Nat) :
    readFrom base acc (ds.map digitChar) = some (valueFrom base acc ds) := by
  induction ds generalizing acc with
  | nil => rfl
  | cons d ds ih =>
    obtain ⟨hd, hrest⟩ := List.forall_mem_cons.mp hds
    rw [List.map_cons, readFrom, digitValue?_digitChar (by omega)]
    dsimp only
    rw [if_pos hd, ih hrest]
    rfl

section Write

variable {base : Nat} (h : 2 ≤ base) (hbase : base ≤ 16)
include hbase

lemma read?_write (n : Nat) : read? base (write base h n) = some n := by
  rw [read?, if_neg (by simpa using write_ne_nil h n), write,
    readFrom_digitChar hbase fun d => lt_of_mem_digits h, valueFrom_digits]

lemma isDigitIn_of_mem_write {n : Nat} {c : Char} (hc : c ∈ write base h n) :
    isDigitIn base c = true := by
  obtain ⟨d, hd, rfl⟩ := List.mem_map.mp hc
  have hlt := lt_of_mem_digits h hd
  rw [isDigitIn, digitValue?_digitChar (by omega)]
  exact decide_eq_true hlt

/-- Only the text of zero has a zero in front. -/
lemma length_write_of_head {n : Nat} (hhead : (write base h n).head? = some '0') :
    (write base h n).length = 1 := by
  rcases digits_eq_singleton_or h n with he | ⟨d, ds, he, hd⟩
  · rw [write, he]
    rfl
  · have hlt : d < base := lt_of_mem_digits h (he ▸ List.mem_cons_self)
    rw [write, he] at hhead
    exact absurd (Option.some.inj hhead) (digitChar_ne_zero (by omega) hd)

end Write

lemma isDigit_of_mem_decimal {n : Nat} {c : Char} (hc : c ∈ decimal n) : isDigit c = true := by
  obtain ⟨d, hd, rfl⟩ := List.mem_map.mp hc
  exact digitChar_isDigit (lt_of_mem_digits _ hd)

lemma decimal_ne_nil (n : Nat) : decimal n ≠ [] :=
  write_ne_nil (by decide) n

lemma decimal_eq_cons (n : Nat) : ∃ c cs, decimal n = c :: cs ∧ isDigit c = true := by
  obtain ⟨c, cs, hcs⟩ := List.exists_cons_of_ne_nil (decimal_ne_nil n)
  exact ⟨c, cs, hcs, isDigit_of_mem_decimal (hcs ▸ List.mem_cons_self)⟩

end GatedRelay.Numeral
