import GatedRelay.Expr.Format
import GatedRelay.Proofs.Numerals

/-!
# Texts of whole numbers and of bytes

A directive for whole numbers writes the one text of digits that has no needless zero in front, with
a minus sign for negative numbers. Bytes have two digits each.
-/

namespace GatedRelay.Expr.Format

/-- The ways to write a whole number. -/
inductive Radix
  | decimal
  | lowerHex
  | upperHex
  | octal
  | binary

namespace Radix

/-- The letter of the directive. -/
def letter : Radix → Char
  | decimal => 'd'
  | lowerHex => 'x'
  | upperHex => 'X'
  | octal => 'o'
  | binary => 'b'

/-- The digits from zero on. -/
def symbols : Radix → List Char
  | decimal => ['0', '1', '2', '3', '4', '5', '6', '7', '8', '9']
  | lowerHex => ['0', '1', '2', '3', '4', '5', '6', '7', '8', '9', 'a', 'b', 'c', 'd', 'e', 'f']
  | upperHex => ['0', '1', '2', '3', '4', '5', '6', '7', '8', '9', 'A', 'B', 'C', 'D', 'E', 'F']
  | octal => ['0', '1', '2', '3', '4', '5', '6', '7']
  | binary => ['0', '1']

def base (r : Radix) : Nat := r.symbols.length

/-- The number that digits stand for. -/
def value (r : Radix) (ds : List Char) : Nat :=
  Numeral.valueFrom r.base 0 (ds.map r.symbols.idxOf)

/-- The number that digits with or without a minus sign stand for. -/
def readInt (r : Radix) : List Char → Int
  | '-' :: ds => -(r.value ds : Int)
  | ds => r.value ds

/-- Digits stand for a number, and none of them is a needless zero in front. -/
structure Spells (r : Radix) (n : Nat) (ds : List Char) : Prop where
  ne_nil : ds ≠ []
  mem_symbols : ∀ c ∈ ds, c ∈ r.symbols
  eq_of_head : ds.head? = some '0' → ds = ['0']
  value_eq : r.value ds = n

lemma two_le_base (r : Radix) : 2 ≤ r.base := by cases r <;> decide

def digit (r : Radix) (d : Nat) : Char := r.symbols.getD d '0'

def write (r : Radix) (n : Nat) : List Char := (Numeral.digits r.base r.two_le_base n).map r.digit

lemma digit_mem_symbols (r : Radix) {d : Nat} (hd : d < r.base) : r.digit d ∈ r.symbols := by
  revert d
  cases r <;> decide

lemma idxOf_digit (r : Radix) {d : Nat} (hd : d < r.base) : r.symbols.idxOf (r.digit d) = d := by
  revert d
  cases r <;> decide

lemma digit_idxOf (r : Radix) {c : Char} (hc : c ∈ r.symbols) :
    r.digit (r.symbols.idxOf c) = c := by
  rw [digit, List.getD_eq_getElem?_getD, List.getElem?_idxOf hc, Option.getD_some]

lemma idxOf_lt_base (r : Radix) {c : Char} (hc : c ∈ r.symbols) : r.symbols.idxOf c < r.base :=
  List.idxOf_lt_length_of_mem hc

lemma digit_eq_zero_iff (r : Radix) {d : Nat} (hd : d < r.base) : r.digit d = '0' ↔ d = 0 := by
  revert d
  cases r <;> decide

lemma value_map_digit (r : Radix) {ds : List Nat} (hds : ∀ d ∈ ds, d < r.base) :
    r.value (ds.map r.digit) = Numeral.valueFrom r.base 0 ds := by
  have hmap : (ds.map r.digit).map r.symbols.idxOf = ds := by
    rw [List.map_map]
    exact (List.map_congr_left fun d hd => r.idxOf_digit (hds d hd)).trans (List.map_id ds)
  rw [value, hmap]

lemma spells_write (r : Radix) (n : Nat) : r.Spells n (r.write n) where
  ne_nil hnil := by
    have hdigits : Numeral.digits r.base r.two_le_base n = [] := List.map_eq_nil_iff.mp hnil
    exact Numeral.write_ne_nil r.two_le_base n (by rw [Numeral.write, hdigits, List.map_nil])
  mem_symbols c hc := by
    obtain ⟨d, hd, rfl⟩ := List.mem_map.mp hc
    exact r.digit_mem_symbols (Numeral.lt_of_mem_digits _ hd)
  eq_of_head hhead := by
    rcases Numeral.digits_eq_singleton_or r.two_le_base n with he | ⟨d, ds, he, hd⟩
    · rw [write, he] at hhead ⊢
      rw [List.map_singleton, Option.some.inj hhead]
    · have hlt : d < r.base := Numeral.lt_of_mem_digits r.two_le_base (he ▸ List.mem_cons_self)
      rw [write, he] at hhead
      exact absurd ((r.digit_eq_zero_iff hlt).mp (Option.some.inj hhead)) hd
  value_eq := by
    rw [write, r.value_map_digit fun d hd => Numeral.lt_of_mem_digits _ hd,
      Numeral.valueFrom_digits]

/-- A number has one text. -/
theorem spells_iff {r : Radix} {n : Nat} {ds : List Char} : r.Spells n ds ↔ ds = r.write n := by
  constructor
  · rintro ⟨hne, hmem, hhead, rfl⟩
    have hdigits : Numeral.digits r.base r.two_le_base (r.value ds) = ds.map r.symbols.idxOf := by
      refine Numeral.digits_valueFrom _ (by simpa using hne) (fun d hd => ?_) fun h0 => ?_
      · obtain ⟨c, hc, rfl⟩ := List.mem_map.mp hd
        exact r.idxOf_lt_base (hmem c hc)
      · obtain ⟨c, rest, rfl⟩ := List.exists_cons_of_ne_nil hne
        have hc : c ∈ r.symbols := hmem c List.mem_cons_self
        have hindex : r.symbols.idxOf c = 0 := Option.some.inj h0
        have hzero : c = '0' := by
          rw [← r.digit_idxOf hc, r.digit_eq_zero_iff (r.idxOf_lt_base hc), hindex]
        subst hzero
        rw [hhead rfl, List.map_singleton, hindex]
    rw [write, hdigits, List.map_map]
    exact ((List.map_congr_left fun c hc => r.digit_idxOf (hmem c hc)).trans (List.map_id ds)).symm
  · rintro rfl
    exact r.spells_write n

/-! ### Directives -/

/-- Digits as the directive writes them. -/
def shape (r : Radix) (cs : List Char) : List Char := upper r.letter cs

lemma shape_map_digitChar (r : Radix) {ds : List Nat} (hds : ∀ d ∈ ds, d < r.base) :
    r.shape (ds.map Numeral.digitChar) = ds.map r.digit := by
  have hdigit : ∀ d < r.base, (if r.letter = 'X' then Char.toUpper (Numeral.digitChar d)
      else Numeral.digitChar d) = r.digit d := by
    cases r <;> decide
  have hshape : r.shape (ds.map Numeral.digitChar) = ds.map fun d =>
      if r.letter = 'X' then Char.toUpper (Numeral.digitChar d) else Numeral.digitChar d := by
    rw [shape, upper]
    split_ifs
    · rw [List.map_map]
      rfl
    · rfl
  rw [hshape]
  exact List.map_congr_left fun d hd => hdigit d (hds d hd)

lemma shape_write (r : Radix) (n : Nat) :
    r.shape (Numeral.write r.base r.two_le_base n) = r.write n :=
  r.shape_map_digitChar fun _ hd => Numeral.lt_of_mem_digits _ hd

lemma argument_uint (r : Radix) (precision : Option Nat) (u : UInt64) :
    argument precision r.letter (.uint u) = .ok (r.write u.toNat) := by
  rw [← r.shape_write]
  cases r <;> rfl

lemma argument_int (r : Radix) (precision : Option Nat) (i : Int64) :
    argument precision r.letter (.int i) =
      .ok (if i.toInt < 0 then '-' :: r.write i.toInt.natAbs else r.write i.toInt.natAbs) := by
  rw [← r.shape_write]
  cases r <;> rfl

lemma readInt_of_spells {r : Radix} {n : Nat} {ds : List Char} (h : r.Spells n ds) :
    r.readInt ds = n ∧ r.readInt ('-' :: ds) = -(n : Int) := by
  obtain ⟨-, hmem, -, rfl⟩ := h
  refine ⟨?_, rfl⟩
  unfold readInt
  split
  · have hminus : '-' ∉ r.symbols := by cases r <;> decide
    exact absurd (hmem _ List.mem_cons_self) hminus
  · rfl

end Radix

/-! ### Bytes -/

/-- The bytes that a value consists of. -/
inductive HasBytes : Value → Bytes → Prop
  | string (s : String) : HasBytes (.string s) (Utf8.ofString s)
  | bytes (bs : Bytes) : HasBytes (.bytes bs) bs

/-- The two digits of each byte, as numbers. -/
def nibbles (bs : Bytes) : List Nat := bs.flatMap fun b => [b.toNat / 16, b.toNat % 16]

lemma lt_of_mem_nibbles {bs : Bytes} {d : Nat} (hd : d ∈ nibbles bs) : d < 16 := by
  obtain ⟨b, -, hd⟩ := List.mem_flatMap.mp hd
  have hb := b.toNat_lt
  simp only [List.mem_cons, List.not_mem_nil, or_false] at hd
  omega

lemma length_nibbles (bs : Bytes) : (nibbles bs).length = 2 * bs.length := by
  induction bs with
  | nil => rfl
  | cons b rest ih =>
    rw [nibbles, List.flatMap_cons, List.length_append, ← nibbles, ih, List.length_cons]
    simp only [List.length_cons, List.length_nil]
    omega

lemma encode_eq_map_nibbles (bs : Bytes) :
    Hex.encode bs = (nibbles bs).map Numeral.digitChar := by
  rw [nibbles, List.map_flatMap]
  rfl

section Hex

variable {r : Radix} (hr : r.base = 16)
include hr

lemma digitValue?_digit {d : Nat} (hd : d < 16) : Numeral.digitValue? (r.digit d) = some d := by
  revert d
  cases r
  case lowerHex | upperHex => decide
  all_goals cases hr

/-- Bytes are read back from their digits in either case. -/
lemma decode?_map_nibbles (bs : Bytes) : Hex.decode? ((nibbles bs).map r.digit) = some bs := by
  induction bs with
  | nil => rfl
  | cons b rest ih =>
    have hb := b.toNat_lt
    have hbyte : b.toNat / 16 * 16 + b.toNat % 16 = b.toNat := Nat.div_add_mod' _ _
    have hcons : (nibbles (b :: rest)).map r.digit =
        r.digit (b.toNat / 16) :: r.digit (b.toNat % 16) :: (nibbles rest).map r.digit := rfl
    rw [hcons, Hex.decode?, digitValue?_digit hr (by omega), digitValue?_digit hr (by omega), ih]
    dsimp only
    rw [hbyte, UInt8.ofNat_toNat]

lemma argument_of_hasBytes (precision : Option Nat) {v : Value} {bs : Bytes}
    (hv : HasBytes v bs) : argument precision r.letter v = .ok ((nibbles bs).map r.digit) := by
  have hshape : r.shape (Hex.encode bs) = (nibbles bs).map r.digit := by
    rw [encode_eq_map_nibbles, r.shape_map_digitChar fun d hd => hr ▸ lt_of_mem_nibbles hd]
  rw [← hshape]
  cases r
  case lowerHex | upperHex => cases hv <;> rfl
  all_goals cases hr

end Hex

/-- A directive for whole numbers writes the one text of digits for the absolute value, after a minus
sign if the number is negative, and the number is read back from it. In base sixteen it also writes
two digits for each byte of a text or of bytes, from which the bytes are read back. -/
theorem argument_exact (precision : Option Nat) (r : Radix) :
    (∀ i : Int64, ∃ ds, (∀ es, r.Spells i.toInt.natAbs es ↔ es = ds) ∧
      argument precision r.letter (.int i) = .ok (if i.toInt < 0 then '-' :: ds else ds) ∧
      r.readInt (if i.toInt < 0 then '-' :: ds else ds) = i.toInt) ∧
    (∀ u : UInt64, ∃ ds, (∀ es, r.Spells u.toNat es ↔ es = ds) ∧
      argument precision r.letter (.uint u) = .ok ds ∧ r.readInt ds = u.toNat) ∧
    (r.base = 16 → ∀ v bs, HasBytes v bs →
      ∃ ds, argument precision r.letter v = .ok ds ∧ ds.length = 2 * bs.length ∧
        (∀ c ∈ ds, c ∈ r.symbols) ∧ Hex.decode? ds = some bs) := by
  refine ⟨fun i => ?_, fun u => ?_, fun hr v bs hv => ?_⟩
  · obtain ⟨hplain, hminus⟩ := Radix.readInt_of_spells (r.spells_write i.toInt.natAbs)
    refine ⟨r.write i.toInt.natAbs, fun es => Radix.spells_iff, r.argument_int precision i, ?_⟩
    split_ifs with hneg
    · rw [hminus]
      omega
    · rw [hplain]
      omega
  · exact ⟨r.write u.toNat, fun es => Radix.spells_iff, r.argument_uint precision u,
      (Radix.readInt_of_spells (r.spells_write u.toNat)).1⟩
  · refine ⟨(nibbles bs).map r.digit, argument_of_hasBytes hr precision hv, ?_, fun c hc => ?_,
      decode?_map_nibbles hr bs⟩
    · rw [List.length_map, length_nibbles]
    · obtain ⟨d, hd, rfl⟩ := List.mem_map.mp hc
      exact r.digit_mem_symbols (hr ▸ lt_of_mem_nibbles hd)

end GatedRelay.Expr.Format
