import GatedRelay.Text.Base64
import Mathlib.Data.List.Basic
import Mathlib.Tactic.Common

/-!
# Base64 texts

Without padding, each sequence of bytes has one text, and that text is all that reading takes for
these bytes. With padding, what was written is read back.
-/

namespace GatedRelay.Base64

variable {a : Alphabet}

namespace Alphabet

lemma value?_char {n : Nat} (hn : n < 64) : a.value? (a.char n) = some n := by
  cases a with
  | standard =>
    revert n
    decide
  | urlSafe =>
    revert n
    decide

/-- The alphabet has 64 characters, and each of them stands for one value. -/
lemma char_of_value? {c : Char} {n : Nat} (h : a.value? c = some n) : n < 64 ∧ a.char n = c := by
  have hc : Char.ofNat c.toNat = c := Char.ofNat_toNat c
  simp only [value?, Char.le_def, UInt32.le_iff_toNat_le] at h
  split_ifs at h with hupper hlower hdigit h62 h63
  · cases h
    have hlo : 65 ≤ c.toNat := hupper.1
    have hhi : c.toNat ≤ 90 := hupper.2
    refine ⟨by omega, ?_⟩
    rw [char, if_pos (by omega), show 65 + (c.toNat - 65) = c.toNat by omega, hc]
  · cases h
    have hlo : 97 ≤ c.toNat := hlower.1
    have hhi : c.toNat ≤ 122 := hlower.2
    refine ⟨by omega, ?_⟩
    rw [char, if_neg (by omega), if_pos (by omega), show 71 + (c.toNat - 71) = c.toNat by omega, hc]
  · cases h
    have hlo : 48 ≤ c.toNat := hdigit.1
    have hhi : c.toNat ≤ 57 := hdigit.2
    refine ⟨by omega, ?_⟩
    rw [char, if_neg (by omega), if_neg (by omega), if_pos (by omega), Nat.add_sub_cancel, hc]
  · cases h
    exact ⟨by decide, h62.symm⟩
  · cases h
    exact ⟨by decide, h63.symm⟩

lemma char_ne {n : Nat} (hn : n < 64) {c : Char} (hc : a.value? c = none) : a.char n ≠ c := by
  rintro rfl
  rw [value?_char hn] at hc
  cases hc

end Alphabet

open Alphabet (value?_char char_of_value? char_ne)

lemma byteOf_eq {n : Nat} {x : UInt8} (h : n = x.toNat) : UInt8.ofNat n = x := by
  rw [h, UInt8.ofNat_toNat]

lemma decodeUnpadded?_encodeUnpadded (bs : Bytes) :
    decodeUnpadded? a (encodeUnpadded a bs) = some bs := by
  fun_induction encodeUnpadded a bs with
  | case1 => rfl
  | case2 x =>
    have hx := x.toNat_lt
    rw [decodeUnpadded?, value?_char (by omega), value?_char (by omega)]
    dsimp only
    rw [if_pos (by omega), byteOf_eq (x := x) (by omega)]
  | case3 x y =>
    have hx := x.toNat_lt
    have hy := y.toNat_lt
    rw [decodeUnpadded?, value?_char (by omega), value?_char (by omega), value?_char (by omega)]
    dsimp only
    rw [if_pos (by omega), byteOf_eq (x := x) (by omega), byteOf_eq (x := y) (by omega)]
  | case4 x y z rest ih =>
    have hx := x.toNat_lt
    have hy := y.toNat_lt
    have hz := z.toNat_lt
    rw [decodeUnpadded?, value?_char (by omega), value?_char (by omega), value?_char (by omega),
      value?_char (by omega)]
    dsimp only
    rw [ih, byteOf_eq (x := x) (by omega), byteOf_eq (x := y) (by omega),
      byteOf_eq (x := z) (by omega)]
    rfl

/-- Reading is strict: the bits that no byte uses are zero. -/
lemma eq_encodeUnpadded_of_decodeUnpadded? {cs : List Char} {bs : Bytes}
    (h : decodeUnpadded? a cs = some bs) : cs = encodeUnpadded a bs := by
  fun_induction decodeUnpadded? a cs generalizing bs with
  | case1 =>
    cases h
    rfl
  | case3 c d p q hq hp hzero =>
    cases h
    obtain ⟨hp64, rfl⟩ := char_of_value? hp
    obtain ⟨hq64, rfl⟩ := char_of_value? hq
    have hx : (UInt8.ofNat (p * 4 + q / 16)).toNat = p * 4 + q / 16 :=
      UInt8.toNat_ofNat_of_lt' (show _ < 256 by omega)
    have hfirst : (p * 4 + q / 16) / 4 = p := by omega
    have hsecond : (p * 4 + q / 16) % 4 * 16 = q := by omega
    rw [encodeUnpadded, hx, hfirst, hsecond]
  | case6 c d e p q r hr hq hp hzero =>
    cases h
    obtain ⟨hp64, rfl⟩ := char_of_value? hp
    obtain ⟨hq64, rfl⟩ := char_of_value? hq
    obtain ⟨hr64, rfl⟩ := char_of_value? hr
    have hx : (UInt8.ofNat (p * 4 + q / 16)).toNat = p * 4 + q / 16 :=
      UInt8.toNat_ofNat_of_lt' (show _ < 256 by omega)
    have hy : (UInt8.ofNat (q % 16 * 16 + r / 4)).toNat = q % 16 * 16 + r / 4 :=
      UInt8.toNat_ofNat_of_lt' (show _ < 256 by omega)
    have hfirst : (p * 4 + q / 16) / 4 = p := by omega
    have hsecond : (p * 4 + q / 16) % 4 * 16 + (q % 16 * 16 + r / 4) / 16 = q := by omega
    have hthird : (q % 16 * 16 + r / 4) % 16 * 4 = r := by omega
    rw [encodeUnpadded, hx, hy, hfirst, hsecond, hthird]
  | case9 c d e f rest p q r s hs hr hq hp ih =>
    obtain ⟨tail, htail, rfl⟩ := Option.map_eq_some_iff.mp h
    obtain ⟨hp64, rfl⟩ := char_of_value? hp
    obtain ⟨hq64, rfl⟩ := char_of_value? hq
    obtain ⟨hr64, rfl⟩ := char_of_value? hr
    obtain ⟨hs64, rfl⟩ := char_of_value? hs
    have hx : (UInt8.ofNat (p * 4 + q / 16)).toNat = p * 4 + q / 16 :=
      UInt8.toNat_ofNat_of_lt' (show _ < 256 by omega)
    have hy : (UInt8.ofNat (q % 16 * 16 + r / 4)).toNat = q % 16 * 16 + r / 4 :=
      UInt8.toNat_ofNat_of_lt' (show _ < 256 by omega)
    have hz : (UInt8.ofNat (r % 4 * 64 + s)).toNat = r % 4 * 64 + s :=
      UInt8.toNat_ofNat_of_lt' (show _ < 256 by omega)
    have hfirst : (p * 4 + q / 16) / 4 = p := by omega
    have hsecond : (p * 4 + q / 16) % 4 * 16 + (q % 16 * 16 + r / 4) / 16 = q := by omega
    have hthird : (q % 16 * 16 + r / 4) % 16 * 4 + (r % 4 * 64 + s) / 64 = r := by omega
    have hfourth : (r % 4 * 64 + s) % 64 = s := by omega
    rw [encodeUnpadded, hx, hy, hz, hfirst, hsecond, hthird, hfourth, ih htail]
  | case2 | case4 | case5 | case7 | case8 | case10 => cases h

theorem decodeUnpadded?_eq_some_iff {cs : List Char} {bs : Bytes} :
    decodeUnpadded? a cs = some bs ↔ cs = encodeUnpadded a bs := by
  constructor
  · exact eq_encodeUnpadded_of_decodeUnpadded?
  · rintro rfl
    exact decodeUnpadded?_encodeUnpadded bs

/-- A text consists of characters of its alphabet. -/
lemma exists_char_of_mem_encodeUnpadded {bs : Bytes} {c : Char} (hc : c ∈ encodeUnpadded a bs) :
    ∃ n < 64, c = a.char n := by
  fun_induction encodeUnpadded a bs with
  | case1 => exact absurd hc List.not_mem_nil
  | case2 x =>
    have hx := x.toNat_lt
    simp only [List.mem_cons, List.not_mem_nil, or_false] at hc
    rcases hc with rfl | rfl
    · exact ⟨_, by omega, rfl⟩
    · exact ⟨_, by omega, rfl⟩
  | case3 x y =>
    have hx := x.toNat_lt
    have hy := y.toNat_lt
    simp only [List.mem_cons, List.not_mem_nil, or_false] at hc
    rcases hc with rfl | rfl | rfl
    · exact ⟨_, by omega, rfl⟩
    · exact ⟨_, by omega, rfl⟩
    · exact ⟨_, by omega, rfl⟩
  | case4 x y z rest ih =>
    have hx := x.toNat_lt
    have hy := y.toNat_lt
    have hz := z.toNat_lt
    simp only [List.mem_cons] at hc
    rcases hc with rfl | rfl | rfl | rfl | hc
    · exact ⟨_, by omega, rfl⟩
    · exact ⟨_, by omega, rfl⟩
    · exact ⟨_, by omega, rfl⟩
    · exact ⟨_, by omega, rfl⟩
    · exact ih hc

lemma notMem_encodeUnpadded {c : Char} (hc : a.value? c = none) (bs : Bytes) :
    c ∉ encodeUnpadded a bs := by
  intro hmem
  obtain ⟨n, hn, heq⟩ := exists_char_of_mem_encodeUnpadded hmem
  exact char_ne hn hc heq.symm

lemma dot_notMem_encodeUnpadded (bs : Bytes) : '.' ∉ encodeUnpadded a bs :=
  notMem_encodeUnpadded (by cases a <;> decide) bs

lemma padding_cons_cons_cons (x y z : UInt8) (rest : Bytes) :
    padding (x :: y :: z :: rest) = padding rest := by
  have hlength : (x :: y :: z :: rest).length % 3 = rest.length % 3 := by
    simp only [List.length_cons]
    omega
  rw [padding, hlength, padding]

theorem decodePadded?_encode (bs : Bytes) : decodePadded? a (encode a bs) = some bs := by
  have hpad : a.value? '=' = none := by cases a <;> decide
  unfold encode
  fun_induction encodeUnpadded a bs with
  | case1 => rfl
  | case2 x => exact decodeUnpadded?_encodeUnpadded [x]
  | case3 x y =>
    have hy := y.toNat_lt
    have hthird : a.char (y.toNat % 16 * 4) ≠ '=' := char_ne (by omega) hpad
    change decodePadded? a [_, _, _, '='] = _
    rw [decodePadded?, if_pos ⟨rfl, rfl⟩, if_neg hthird]
    exact decodeUnpadded?_encodeUnpadded [x, y]
  | case4 x y z rest ih =>
    have hz := z.toNat_lt
    have hfourth : a.char (z.toNat % 64) ≠ '=' := char_ne (by omega) hpad
    have hgroup := decodeUnpadded?_encodeUnpadded (a := a) [x, y, z]
    rw [encodeUnpadded, encodeUnpadded] at hgroup
    rw [padding_cons_cons_cons]
    simp only [List.cons_append]
    rw [decodePadded?, if_neg fun h => hfourth h.2, hgroup, ih]
    rfl

end GatedRelay.Base64
