import GatedRelay.Expr.Library
import GatedRelay.Proofs.AddressGrammar

/-!
# Which addresses a range holds

A test fails on texts that are no address or no range, and compares leading bits on all others. It
does not matter whether an address of the older family is written as a mapped one of the newer.
-/

namespace GatedRelay

namespace IpAddress

/-! ### Mapped addresses -/

/-- The address of the newer family that stands for one of the older. -/
def mapped (b : BitVec 32) : BitVec 128 := 0xffff#96 ++ b

lemma toNat_mapped (b : BitVec 32) : (mapped b).toNat = 0xffff * 0x100000000 + b.toNat := by
  have hb := b.isLt
  rw [mapped, BitVec.toNat_append, ← Nat.shiftLeft_add_eq_or_of_lt hb, Nat.shiftLeft_eq]
  rfl

lemma mapped?_eq_some_iff {bits : BitVec 128} {b : BitVec 32} :
    mapped? bits = some b ↔ bits = mapped b := by
  have hb := b.isLt
  constructor
  · intro h
    obtain ⟨hfront, hlow⟩ := mapped?_eq_some h
    apply BitVec.eq_of_toNat_eq
    rw [toNat_mapped]
    omega
  · rintro rfl
    rw [mapped?, toNat_mapped, if_pos (by omega)]
    congr 1
    apply BitVec.eq_of_toNat_eq
    rw [BitVec.toNat_ofNat]
    omega

/-- An address and what it stands for: a mapped one for the address within it, any other one for
itself. -/
inductive StandsFor : IpAddress → IpAddress → Prop
  | mapped (b : BitVec 32) : StandsFor (v6 (mapped b)) (v4 b)
  | other {a : IpAddress} : (∀ b, a ≠ v6 (IpAddress.mapped b)) → StandsFor a a

lemma standsFor_canonical (a : IpAddress) : a.StandsFor a.canonical := by
  cases a with
  | v4 bits => exact .other nofun
  | v6 bits =>
    rw [canonical]
    split
    · next b hb =>
      rw [mapped?_eq_some_iff.mp hb]
      exact .mapped b
    · next hnone =>
      refine .other fun b hb => ?_
      rw [mapped?_eq_some_iff.mpr (v6.inj hb)] at hnone
      cases hnone

lemma canonical_mapped (b : BitVec 32) : (v6 (mapped b)).canonical = v4 b := by
  rw [canonical, mapped?_eq_some_iff.mpr rfl]

end IpAddress

namespace IpRange

/-- A range and what it stands for: one within the mapped addresses for the range of the addresses
within them, any other one for itself. -/
inductive StandsFor : IpRange → IpRange → Prop
  | mapped (b : BitVec 32) (length : Fin 129) (h : 96 ≤ length.val) :
      StandsFor (v6 (IpAddress.mapped b) length) (v4 b ⟨length.val - 96, by omega⟩)
  | other {r : IpRange} :
      (∀ b length, 96 ≤ length.val → r ≠ v6 (IpAddress.mapped b) length) → StandsFor r r

lemma canonical_mapped (b : BitVec 32) {length : Fin 129} (h : 96 ≤ length.val) :
    (v6 (IpAddress.mapped b) length).canonical = v4 b ⟨length.val - 96, by omega⟩ := by
  rw [canonical, IpAddress.mapped?_eq_some_iff.mpr rfl]
  exact dif_pos h

lemma standsFor_canonical (r : IpRange) : r.StandsFor r.canonical := by
  cases r with
  | v4 base length => exact .other nofun
  | v6 base length =>
    by_cases hmapped : ∃ b, base = IpAddress.mapped b ∧ 96 ≤ length.val
    · obtain ⟨b, rfl, hlength⟩ := hmapped
      rw [canonical_mapped b hlength]
      exact .mapped b length hlength
    · have hsame : (v6 base length).canonical = v6 base length := by
        rw [canonical]
        split
        · next b hb =>
          exact dif_neg fun h => hmapped ⟨b, IpAddress.mapped?_eq_some_iff.mp hb, h⟩
        · rfl
      rw [hsame]
      refine .other fun b length' h heq => ?_
      cases heq
      exact hmapped ⟨b, rfl, h⟩

/-- A range holds the addresses of its family that have its leading bits. -/
def Holds : IpRange → IpAddress → Prop
  | v4 base length, .v4 bits => ∀ i < length.val, bits.getMsbD i = base.getMsbD i
  | v6 base length, .v6 bits => ∀ i < length.val, bits.getMsbD i = base.getMsbD i
  | _, _ => False

lemma agree_iff {size length : Nat} (hlength : length ≤ size) (a b : BitVec size) :
    agree length a b = true ↔ ∀ i < length, b.getMsbD i = a.getMsbD i := by
  have hbit : ∀ x : BitVec size, ∀ i < length,
      (x >>> (size - length)).getMsbD (i + (size - length)) = x.getMsbD i := by
    intro x i hi
    have hlt : i + (size - length) < size := by omega
    simp [BitVec.getMsbD_ushiftRight, hlt]
  rw [agree, beq_iff_eq]
  constructor
  · intro h i hi
    rw [← hbit b i hi, ← hbit a i hi, h]
  · intro h
    apply BitVec.eq_of_getMsbD_eq
    intro i hi
    by_cases hfront : i < size - length
    · simp [BitVec.getMsbD_ushiftRight, hfront]
    · obtain ⟨k, rfl⟩ := Nat.exists_eq_add_of_le' (Nat.not_lt.mp hfront)
      rw [hbit a k (by omega), hbit b k (by omega), h k (by omega)]

lemma contains_iff (r : IpRange) (a : IpAddress) : r.contains a = true ↔ r.Holds a := by
  cases r with
  | v4 base length =>
    cases a with
    | v4 bits => exact agree_iff (by omega) base bits
    | v6 bits => simp [contains, Holds]
  | v6 base length =>
    cases a with
    | v4 bits => simp [contains, Holds]
    | v6 bits => exact agree_iff (by omega) base bits

/-! ### Texts of ranges -/

open IpAddress (SpellsV4 SpellsV6 SpellsNumber)

/-- A text that denotes a range: an address in whose octets zeros may lead, a slash, and a number of
bits that the address has. -/
inductive Spells : IpRange → List Char → Prop
  | v4 {os : List Nat} {t l : List Char} {length : Fin 33} : SpellsV4 .lenient os t →
      SpellsNumber 10 2 33 true length.val l →
      Spells (v4 (IpAddress.ofDigits 32 8 os) length) (t ++ '/' :: l)
  | v6 {gs : List Nat} {t l : List Char} {length : Fin 129} : SpellsV6 .lenient gs t →
      SpellsNumber 10 3 129 true length.val l →
      Spells (v6 (IpAddress.ofDigits 128 16 gs) length) (t ++ '/' :: l)

lemma readLength?_eq_some_iff {maxDigits limit : Nat} {rest : List Char} {length : Fin limit} :
    readLength? maxDigits limit rest = some length ↔
      ∃ l, rest = '/' :: l ∧ SpellsNumber 10 maxDigits limit true length.val l := by
  constructor
  · intro h
    rw [readLength?.eq_def] at h
    split at h
    · next l =>
      split at h
      · next n hn =>
        split_ifs at h with hlt
        cases h
        obtain ⟨t, rfl, -, ht⟩ := IpAddress.readNumber?_eq_some_iff.mp hn
        exact ⟨_, rfl, by rwa [List.append_nil]⟩
      · cases h
    · cases h
  · rintro ⟨l, rfl, hl⟩
    have hread := IpAddress.readNumber?_eq_some_iff.mpr
      ⟨l, (List.append_nil l).symm, nofun, hl⟩
    rw [readLength?, hread]
    exact dif_pos length.isLt

lemma slash_notMem {cs : List Char} (h : ∀ c ∈ cs, IpAddress.IsAddressChar c) : '/' ∉ cs := by
  intro hmem
  rcases h _ hmem with hc | hc | hc <;> exact absurd hc (by decide)

lemma endsGroups_slash (l : List Char) : IpAddress.EndsGroups ('/' :: l) :=
  .other l rfl (by decide) (by decide)

/-- With a length after them, eight groups are no octets. -/
lemma readLength?_eq_none_of_spellsV6 {gs os : List Nat} {t l rest : List Char}
    (ht : SpellsV6 .lenient gs t)
    (hread : IpAddress.readV4? .lenient (t ++ '/' :: l) = some (os, rest)) :
    readLength? 2 33 rest = none := by
  rw [Option.eq_none_iff_forall_ne_some]
  intro length hlength
  obtain ⟨l', rfl, -⟩ := readLength?_eq_some_iff.mp hlength
  obtain ⟨t', heq, ht'⟩ := IpAddress.spellsV4_of_readV4? hread
  have hcut : Text.cutAt? '/' (t ++ '/' :: l) = some (t, l) :=
    Text.cutAt?_eq_some_iff.mpr ⟨rfl, slash_notMem ht.isAddressChar⟩
  have hcut' : Text.cutAt? '/' (t' ++ '/' :: l') = some (t', l') :=
    Text.cutAt?_eq_some_iff.mpr
      ⟨rfl, slash_notMem fun c hc => (ht'.mem hc).imp_right Or.inl⟩
  rw [heq, hcut'] at hcut
  cases hcut
  exact ht'.colon_notMem ht.colon_mem

/-- What is read of a range is what its text denotes. -/
theorem parse?_eq_some_iff {cs : List Char} {r : IpRange} : parse? cs = some r ↔ Spells r cs := by
  constructor
  · intro h
    rw [parse?] at h
    split at h
    · next r' hr =>
      cases h
      split at hr
      · next os rest hos =>
        obtain ⟨length, hlength, rfl⟩ := Option.map_eq_some_iff.mp hr
        obtain ⟨l, rfl, hl⟩ := readLength?_eq_some_iff.mp hlength
        obtain ⟨t, rfl, ht⟩ := IpAddress.spellsV4_of_readV4? hos
        exact .v4 ht hl
      · cases hr
    · split at h
      · next gs rest hgs =>
        obtain ⟨length, hlength, rfl⟩ := Option.map_eq_some_iff.mp h
        obtain ⟨l, rfl, hl⟩ := readLength?_eq_some_iff.mp hlength
        obtain ⟨t, rfl, ht⟩ := IpAddress.spellsV6_of_readV6? (by decide) hgs
        exact .v6 ht hl
      · cases h
  · intro h
    cases h with
    | @v4 os t l length ht hl =>
      have hread := ht.readV4? ((endsGroups_slash l).noDigit 10)
      have hlength := readLength?_eq_some_iff.mpr ⟨l, rfl, hl⟩
      simp only [parse?, hread, hlength, Option.map_some]
    | @v6 gs t l length ht hl =>
      have hread := ht.readV6? (endsGroups_slash l)
      have hlength := readLength?_eq_some_iff.mpr ⟨l, rfl, hl⟩
      rw [parse?]
      split
      · next r' hr =>
        split at hr
        · next os rest hos =>
          rw [readLength?_eq_none_of_spellsV6 ht hos] at hr
          cases hr
        · cases hr
      · simp only [hread, hlength, Option.map_some]

end IpRange

/-! ### Mapped texts -/

namespace IpAddress

/-- The mark of mapped addresses in front of a text. -/
def markMapped (cs : List Char) : List Char := [':', ':', 'f', 'f', 'f', 'f', ':'] ++ cs

lemma SpellsOctets.lt {g : Grammar} {os : List Nat} {cs : List Char} (h : SpellsOctets g os cs) :
    ∀ o ∈ os, o < 256 := by
  induction h with
  | nil => exact List.forall_mem_nil _
  | cons ht hcs ih => exact List.forall_mem_cons.mpr ⟨ht.limit, ih⟩

lemma SpellsV4.exists_octets {g : Grammar} {os : List Nat} {cs : List Char} (h : SpellsV4 g os cs) :
    ∃ a b c d, os = [a, b, c, d] ∧ a < 256 ∧ b < 256 ∧ c < 256 ∧ d < 256 := by
  obtain ⟨ht, hcs, hlength⟩ := h
  obtain ⟨b, c, d, rfl⟩ := List.length_eq_three.mp hlength
  have hlt := hcs.lt
  simp only [List.forall_mem_cons] at hlt
  exact ⟨_, b, c, d, rfl, ht.limit, hlt.1, hlt.2.1, hlt.2.2.1⟩

lemma ofDigits_mapped {a b c d : Nat} (ha : a < 256) (hb : b < 256) (hc : c < 256) (hd : d < 256) :
    ofDigits 128 16 [0, 0, 0, 0, 0, 0xffff, a * 256 + b, c * 256 + d] =
      mapped (ofDigits 32 8 [a, b, c, d]) := by
  apply BitVec.eq_of_toNat_eq
  rw [toNat_mapped, ofDigits, ofDigits, BitVec.toNat_ofNat, BitVec.toNat_ofNat]
  simp only [List.foldl_cons, List.foldl_nil, Nat.pow_eq]
  omega

/-- After the mark, octets make up the mapped address. -/
lemma SpellsV4.markMapped {g : Grammar} (hg : g.fewestOmitted ≤ 1) {os : List Nat}
    {cs : List Char} (h : SpellsV4 g os cs) :
    ∃ gs, SpellsV6 g gs (IpAddress.markMapped cs) ∧
      ofDigits 128 16 gs = mapped (ofDigits 32 8 os) := by
  obtain ⟨a, b, c, d, rfl, ha, hb, hc, hd⟩ := h.exists_octets
  have hmark : SpellsNumber 16 4 65536 true 0xffff ['f', 'f', 'f', 'f'] :=
    ⟨by decide, by decide, by decide, nofun⟩
  have htail := SpellsGroups.group true hmark (.octets false h)
  refine ⟨_, .gap (.nil true) htail (by decide) ?_, ofDigits_mapped ha hb hc hd⟩
  simp only [List.length_cons, List.length_nil]
  omega

lemma spellsNumber_decimal {maxDigits limit n : Nat} (hmax : 1 ≤ maxDigits)
    (hdigits : n < 10 ^ maxDigits) (hlimit : n < limit) :
    SpellsNumber 10 maxDigits limit true n (Numeral.decimal n) where
  value := Numeral.read?_write (by decide) (by decide) n
  length := by
    rw [Numeral.decimal, Numeral.write, List.length_map]
    exact Numeral.length_digits_le (by decide) hmax hdigits
  limit := hlimit
  zeros := nofun

lemma spells_mapped {b : BitVec 32} {cs : List Char} (h : Spells (v4 b) cs) :
    Spells (v6 (IpAddress.mapped b)) (markMapped cs) := by
  cases h with
  | v4 hos =>
    obtain ⟨gs, hgs, heq⟩ := hos.markMapped (by decide)
    rw [← heq]
    exact .v6 hgs

end IpAddress

namespace IpRange

/-- The length of a range of mapped addresses. -/
def longer (length : Fin 33) : Fin 129 := ⟨length.val + 96, by omega⟩

lemma append_slash_inj {t l b q : List Char} (ht : '/' ∉ t) (hl : '/' ∉ l)
    (h : t ++ '/' :: l = b ++ '/' :: q) : t = b := by
  rcases List.append_eq_append_iff.mp h with ⟨more, hb, hl'⟩ | ⟨more, ht', hq⟩
  · cases more with
    | nil => rw [hb, List.append_nil]
    | cons c more =>
      obtain ⟨-, rfl⟩ := List.cons.inj hl'
      exact absurd (List.mem_append_right more List.mem_cons_self) hl
  · cases more with
    | nil => rw [ht', List.append_nil]
    | cons c more =>
      obtain ⟨rfl, -⟩ := List.cons.inj hq
      exact absurd (ht' ▸ List.mem_append_right b List.mem_cons_self) ht

lemma spells_mapped {base : BitVec 32} {length : Fin 33} {b q : List Char}
    (h : Spells (v4 base length) (b ++ '/' :: q)) :
    Spells (v6 (IpAddress.mapped base) (longer length))
      (IpAddress.markMapped b ++ '/' :: Numeral.decimal (longer length)) := by
  generalize htext : b ++ '/' :: q = text at h
  cases h with
  | @v4 os t l length ht hl =>
    have hslash : '/' ∉ t := slash_notMem fun c hc => (ht.mem hc).imp_right Or.inl
    obtain rfl := append_slash_inj hslash (slash_notMem hl.isAddressChar) htext.symm
    obtain ⟨gs, hgs, heq⟩ := ht.markMapped (by decide)
    have hlt := length.isLt
    rw [← heq]
    exact .v6 hgs (IpAddress.spellsNumber_decimal (by decide) (by rw [longer]; omega)
      (longer length).isLt)

end IpRange

namespace Expr.Library

lemma rangeTest_of_spells {a r : String} {addr : IpAddress} {range : IpRange}
    (ha : IpAddress.Spells addr a.toList) (hr : IpRange.Spells range r.toList) :
    rangeTest a r = .value (.bool (range.canonical.contains addr.canonical)) := by
  rw [rangeTest, IpAddress.parse?_eq_some_iff.mpr ha]
  dsimp only
  rw [IpRange.parse?_eq_some_iff.mpr hr]

lemma rangeTest_refused_iff {a r : String} : (∃ e, rangeTest a r = .refused e) ↔
    (¬∃ addr, IpAddress.Spells addr a.toList) ∨ ¬∃ range, IpRange.Spells range r.toList := by
  simp only [← IpAddress.parse?_eq_some_iff, ← IpRange.parse?_eq_some_iff]
  rw [rangeTest]
  cases IpAddress.parse? a.toList with
  | none => simp
  | some addr => cases IpRange.parse? r.toList <;> simp

/-- Texts of addresses that stand for the same one are tested alike. -/
lemma rangeTest_congr_address {a a' : String} {addr addr' : IpAddress}
    (ha : IpAddress.Spells addr a.toList) (ha' : IpAddress.Spells addr' a'.toList)
    (h : addr'.canonical = addr.canonical) (r : String) : rangeTest a' r = rangeTest a r := by
  rw [rangeTest, rangeTest, IpAddress.parse?_eq_some_iff.mpr ha,
    IpAddress.parse?_eq_some_iff.mpr ha']
  dsimp only
  rw [h]

lemma rangeTest_congr_range {r r' : String} {range range' : IpRange}
    (hr : IpRange.Spells range r.toList) (hr' : IpRange.Spells range' r'.toList)
    (h : range'.canonical = range.canonical) (a : String) : rangeTest a r' = rangeTest a r := by
  rw [rangeTest, rangeTest, IpRange.parse?_eq_some_iff.mpr hr, IpRange.parse?_eq_some_iff.mpr hr']
  dsimp only
  rw [h]

/-- A test fails if and only if one of its texts denotes nothing. Else it compares the leading bits
of what the address and the range stand for, so that mapped texts are tested as the older ones. -/
theorem ipInRange_decides (now : Moment) (a r : String) :
    Library.apply now .ipInRange [.string a, .string r] = rangeTest a r ∧
    ((∃ e, rangeTest a r = .refused e) ↔
      (¬∃ addr, IpAddress.Spells addr a.toList) ∨ ¬∃ range, IpRange.Spells range r.toList) ∧
    (∀ addr range, IpAddress.Spells addr a.toList → IpRange.Spells range r.toList →
      ∃ addr' range' holds, addr.StandsFor addr' ∧ range.StandsFor range' ∧
        rangeTest a r = .value (.bool holds) ∧ (holds = true ↔ range'.Holds addr')) ∧
    (∀ b, IpAddress.Spells (.v4 b) a.toList →
      IpAddress.Spells (.v6 (IpAddress.mapped b)) ("::ffff:" ++ a).toList ∧
      ∀ a', IpAddress.Spells (.v6 (IpAddress.mapped b)) a'.toList →
        rangeTest a' r = rangeTest a r) ∧
    (∀ base length b q, IpRange.Spells (.v4 base length) r.toList → r = b ++ "/" ++ q →
      IpRange.Spells (.v6 (IpAddress.mapped base) (IpRange.longer length))
        ("::ffff:" ++ b ++ "/" ++ Numeral.decimalString (length.val + 96)).toList ∧
      ∀ r', IpRange.Spells (.v6 (IpAddress.mapped base) (IpRange.longer length)) r'.toList →
        rangeTest a r' = rangeTest a r) := by
  refine ⟨rfl, rangeTest_refused_iff, fun addr range ha hr => ?_, fun b hb => ?_,
    fun base length b q hr htext => ?_⟩
  · exact ⟨addr.canonical, range.canonical, range.canonical.contains addr.canonical,
      addr.standsFor_canonical, range.standsFor_canonical, rangeTest_of_spells ha hr,
      IpRange.contains_iff _ _⟩
  · refine ⟨?_, fun a' ha' => ?_⟩
    · rw [String.toList_append]
      exact IpAddress.spells_mapped hb
    · exact rangeTest_congr_address hb ha' (IpAddress.canonical_mapped b) r
  · refine ⟨?_, fun r' hr' => ?_⟩
    · rw [htext, String.toList_append, String.toList_append, List.append_assoc] at hr
      have hlength : (Numeral.decimalString (length.val + 96)).toList =
          Numeral.decimal (length.val + 96) := String.toList_ofList
      rw [String.toList_append, String.toList_append, String.toList_append, hlength,
        List.append_assoc]
      exact IpRange.spells_mapped hr
    · refine rangeTest_congr_range hr hr' ?_ a
      exact IpRange.canonical_mapped base (Nat.le_add_left 96 length.val)

end Expr.Library

end GatedRelay
