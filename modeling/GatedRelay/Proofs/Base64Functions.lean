import GatedRelay.Expr.Library
import GatedRelay.Proofs.Base64Text
import Mathlib.Algebra.Group.Nat.Defs
import Mathlib.Data.List.Basic

/-!
# Bytes and their texts as functions of expressions

A text of bytes gives six of their bits with each character, and zeros for the bits that are left.
Decoding takes exactly these texts, with all of the padding or with none of it.
-/

namespace GatedRelay.Base64

variable {a : Alphabet}

/-- The lowest bits of a number, the highest of them first. -/
def bits : Nat → Nat → List Nat
  | 0, _ => []
  | w + 1, n => n / 2 ^ w % 2 :: bits w n

/-- Each character of a text stands for six bits: those of the bytes, and then fewer than six
zeros. -/
def Spells (a : Alphabet) (bs : Bytes) (cs : List Char) : Prop :=
  ∃ sextets : List Nat, (∀ n ∈ sextets, n < 64) ∧ cs = sextets.map a.char ∧
    ∃ k < 6, sextets.flatMap (bits 6) =
      bs.flatMap (fun b => bits 8 b.toNat) ++ List.replicate k 0

/-- Padding fills the last group of four characters. -/
def SpellsPadded (a : Alphabet) (bs : Bytes) (cs : List Char) : Prop :=
  ∃ text k, Spells a bs text ∧ k < 4 ∧ cs = text ++ List.replicate k '=' ∧ 4 ∣ cs.length

/-! ### Bits -/

lemma length_bits (w n : Nat) : (bits w n).length = w := by
  induction w with
  | zero => rfl
  | succ w ih => rw [bits, List.length_cons, ih]

lemma length_flatMap_bits {α : Type} (w : Nat) (f : α → Nat) (l : List α) :
    (l.flatMap fun x => bits w (f x)).length = w * l.length := by
  induction l with
  | nil => rfl
  | cons x rest ih =>
    rw [List.flatMap_cons, List.length_append, ih, length_bits, List.length_cons, Nat.mul_succ,
      Nat.add_comm]

/-- A number is known by its bits. -/
lemma mod_eq_of_bits_eq {w m n : Nat} (h : bits w m = bits w n) : m % 2 ^ w = n % 2 ^ w := by
  induction w with
  | zero => rw [Nat.pow_zero, Nat.mod_one, Nat.mod_one]
  | succ w ih =>
    obtain ⟨hbit, hrest⟩ := List.cons.inj h
    rw [Nat.mod_pow_succ, Nat.mod_pow_succ, hbit, ih hrest]

lemma flatMap_bits_inj {w : Nat} {ms ns : List Nat} (hms : ∀ n ∈ ms, n < 2 ^ w)
    (hns : ∀ n ∈ ns, n < 2 ^ w) (hlength : ms.length = ns.length)
    (h : ms.flatMap (bits w) = ns.flatMap (bits w)) : ms = ns := by
  induction ms generalizing ns with
  | nil => exact (List.length_eq_zero_iff.mp hlength.symm).symm
  | cons m ms ih =>
    cases ns with
    | nil => cases hlength
    | cons n ns =>
      obtain ⟨hm, hms⟩ := List.forall_mem_cons.mp hms
      obtain ⟨hn, hns⟩ := List.forall_mem_cons.mp hns
      rw [List.flatMap_cons, List.flatMap_cons] at h
      obtain ⟨hhead, htail⟩ := List.append_inj h (by rw [length_bits, length_bits])
      have hmod := mod_eq_of_bits_eq hhead
      rw [Nat.mod_eq_of_lt hm, Nat.mod_eq_of_lt hn] at hmod
      rw [hmod, ih hms hns (Nat.succ.inj hlength) htail]

lemma length_of_flatMap_bits_eq {sextets : List Nat} {bs : Bytes} {k : Nat}
    (h : sextets.flatMap (bits 6) =
      bs.flatMap (fun b => bits 8 b.toNat) ++ List.replicate k 0) :
    6 * sextets.length = 8 * bs.length + k := by
  have hlength := congrArg List.length h
  rwa [length_flatMap_bits 6 fun n => n, List.length_append, length_flatMap_bits,
    List.length_replicate] at hlength

/-- The number of characters is settled by the number of bytes. -/
lemma Spells.length {bs : Bytes} {cs : List Char} (h : Spells a bs cs) :
    ∃ k < 6, 6 * cs.length = 8 * bs.length + k := by
  obtain ⟨sextets, -, rfl, k, hk, hbits⟩ := h
  exact ⟨k, hk, by rw [List.length_map, length_of_flatMap_bits_eq hbits]⟩

lemma Spells.unique {bs : Bytes} {cs ds : List Char} (hc : Spells a bs cs) (hd : Spells a bs ds) :
    cs = ds := by
  obtain ⟨ms, hms, rfl, k, hk, hmbits⟩ := hc
  obtain ⟨ns, hns, rfl, l, hl, hnbits⟩ := hd
  have hmlength := length_of_flatMap_bits_eq hmbits
  have hnlength := length_of_flatMap_bits_eq hnbits
  obtain rfl : k = l := by omega
  rw [flatMap_bits_inj hms hns (by omega) (hmbits.trans hnbits.symm)]

lemma spells_encodeUnpadded (bs : Bytes) : Spells a bs (encodeUnpadded a bs) := by
  fun_induction encodeUnpadded a bs with
  | case1 => exact ⟨[], by simp, rfl, 0, by decide, rfl⟩
  | case2 x =>
    have hx := x.toNat_lt
    refine ⟨[x.toNat / 4, x.toNat % 4 * 16], ?_, rfl, 4, by decide, ?_⟩
    · simp only [List.forall_mem_cons]
      refine ⟨by omega, by omega, by simp⟩
    · simp [bits]
      and_intros <;> omega
  | case3 x y =>
    have hx := x.toNat_lt
    have hy := y.toNat_lt
    refine ⟨[x.toNat / 4, x.toNat % 4 * 16 + y.toNat / 16, y.toNat % 16 * 4], ?_, rfl, 2,
      by decide, ?_⟩
    · simp only [List.forall_mem_cons]
      refine ⟨by omega, by omega, by omega, by simp⟩
    · simp [bits]
      and_intros <;> omega
  | case4 x y z rest ih =>
    have hx := x.toNat_lt
    have hy := y.toNat_lt
    have hz := z.toNat_lt
    obtain ⟨sextets, hsextets, htext, k, hk, hbits⟩ := ih
    refine ⟨[x.toNat / 4, x.toNat % 4 * 16 + y.toNat / 16, y.toNat % 16 * 4 + z.toNat / 64,
      z.toNat % 64] ++ sextets, ?_, ?_, k, hk, ?_⟩
    · simp only [List.forall_mem_append, List.forall_mem_cons]
      exact ⟨⟨by omega, by omega, by omega, by omega, by simp⟩, hsextets⟩
    · rw [htext]
      rfl
    · have hgroup : [x.toNat / 4, x.toNat % 4 * 16 + y.toNat / 16, y.toNat % 16 * 4 + z.toNat / 64,
          z.toNat % 64].flatMap (bits 6) = [x, y, z].flatMap fun b => bits 8 b.toNat := by
        simp [bits]
        and_intros <;> omega
      change _ = ([x, y, z] ++ rest).flatMap _ ++ _
      rw [List.flatMap_append, List.flatMap_append, hgroup, hbits, List.append_assoc]

theorem spells_iff {bs : Bytes} {cs : List Char} : Spells a bs cs ↔ cs = encodeUnpadded a bs := by
  constructor
  · exact fun h => h.unique (spells_encodeUnpadded bs)
  · rintro rfl
    exact spells_encodeUnpadded bs

/-! ### Padding -/

lemma padding_eq_replicate (bs : Bytes) :
    padding bs = List.replicate ((4 - (encodeUnpadded a bs).length % 4) % 4) '=' := by
  obtain ⟨k, hk, hlength⟩ := (spells_encodeUnpadded (a := a) bs).length
  have hmod : bs.length % 3 = 0 ∨ bs.length % 3 = 1 ∨ bs.length % 3 = 2 := by omega
  rcases hmod with hmod | hmod | hmod
  · have hpad : (4 - (encodeUnpadded a bs).length % 4) % 4 = 0 := by omega
    rw [padding, hmod, hpad]
    rfl
  · have hpad : (4 - (encodeUnpadded a bs).length % 4) % 4 = 2 := by omega
    rw [padding, hmod, hpad]
    rfl
  · have hpad : (4 - (encodeUnpadded a bs).length % 4) % 4 = 1 := by omega
    rw [padding, hmod, hpad]
    rfl

theorem spellsPadded_iff {bs : Bytes} {cs : List Char} :
    SpellsPadded a bs cs ↔ cs = encode a bs := by
  rw [encode, padding_eq_replicate (a := a)]
  constructor
  · rintro ⟨text, k, htext, hk, rfl, hdvd⟩
    rw [spells_iff] at htext
    subst htext
    rw [List.length_append, List.length_replicate] at hdvd
    congr 2
    omega
  · rintro rfl
    refine ⟨encodeUnpadded a bs, _, spells_encodeUnpadded bs, Nat.mod_lt _ (by decide), rfl, ?_⟩
    rw [List.length_append, List.length_replicate]
    omega

lemma encode_three_append (x y z : UInt8) (rest : Bytes) :
    encode a (x :: y :: z :: rest) = encodeUnpadded a [x, y, z] ++ encode a rest := by
  rw [encode, padding_cons_cons_cons, encode, ← List.append_assoc]
  rfl

/-- Padding has to be complete. -/
lemma eq_encode_of_decodePadded? {cs : List Char} {bs : Bytes}
    (h : decodePadded? a cs = some bs) : cs = encode a bs := by
  fun_induction decodePadded? a cs generalizing bs with
  | case1 =>
    cases h
    rfl
  | case2 c d e f rest hlast =>
    obtain ⟨hrest, rfl⟩ := hlast
    obtain rfl := List.isEmpty_iff.mp hrest
    have htext := eq_encodeUnpadded_of_decodeUnpadded? h
    rw [encode, padding_eq_replicate (a := a), ← htext]
    split_ifs with he
    · rw [he]
      rfl
    · rfl
  | case3 c d e f rest hnot group hgroup ih =>
    obtain ⟨tail, htail, rfl⟩ := Option.map_eq_some_iff.mp h
    have htext := eq_encodeUnpadded_of_decodeUnpadded? hgroup
    -- Four characters leave no bits over, so that they are three bytes.
    obtain ⟨k, hk, hlength⟩ := (spells_encodeUnpadded (a := a) group).length
    rw [← htext] at hlength
    obtain ⟨x, y, z, rfl⟩ : ∃ x y z, group = [x, y, z] := by
      refine List.length_eq_three.mp ?_
      simp only [List.length_cons, List.length_nil] at hlength
      omega
    rw [List.cons_append, List.cons_append, List.cons_append, List.nil_append,
      encode_three_append, ← htext, ← ih htail]
    rfl
  | case4 => cases h
  | case5 => cases h

/-- A text without padding that is also one with padding is that of the same bytes. -/
lemma eq_of_encodeUnpadded_eq_encode {bs bs' : Bytes} (h : encodeUnpadded a bs = encode a bs') :
    bs = bs' := by
  have hequals : '=' ∉ encodeUnpadded a bs := notMem_encodeUnpadded (by cases a <;> decide) bs
  rw [encode, padding_eq_replicate (a := a)] at h
  generalize (4 - (encodeUnpadded a bs').length % 4) % 4 = k at h
  cases k with
  | zero =>
    rw [List.replicate_zero, List.append_nil] at h
    have hread := decodeUnpadded?_encodeUnpadded (a := a) bs
    rw [h, decodeUnpadded?_encodeUnpadded] at hread
    exact (Option.some.inj hread).symm
  | succ k =>
    rw [h] at hequals
    exact absurd (List.mem_append_right _ List.mem_cons_self) hequals

theorem decode?_eq_some_iff {cs : List Char} {bs : Bytes} :
    decode? a cs = some bs ↔ Spells a bs cs ∨ SpellsPadded a bs cs := by
  rw [spells_iff, spellsPadded_iff, decode?]
  constructor
  · intro h
    split at h
    · next hpadded =>
      cases h
      exact .inr (eq_encode_of_decodePadded? hpadded)
    · exact .inl (eq_encodeUnpadded_of_decodeUnpadded? h)
  · rintro (rfl | rfl)
    · split
      · next hpadded => rw [eq_of_encodeUnpadded_eq_encode (eq_encode_of_decodePadded? hpadded)]
      · exact decodeUnpadded?_encodeUnpadded bs
    · rw [decodePadded?_encode]

/-- Padding that is not complete, and a bit that no byte uses. -/
example : decode? .standard ['A', 'A', '='] = none ∧ decode? .standard ['A', 'B'] = none := by
  decide

end GatedRelay.Base64

namespace GatedRelay.Expr

open Base64 (Spells SpellsPadded)

end GatedRelay.Expr
