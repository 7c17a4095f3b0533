import GatedRelay.Text.Utf8
import Mathlib.Data.List.Basic

/-!
# Reading back what was written as UTF-8

The bytes of a text decode to that text, strictly and lossily. Where bytes decode strictly, lossy
decoding finds the same text.
-/

namespace GatedRelay.Utf8

lemma continuation_ofNat {lo hi : UInt8} {n : Nat} (hlo : lo.toNat ≤ n) (hhi : n ≤ hi.toNat)
    (rest : Bytes) : continuation lo hi (UInt8.ofNat n :: rest) = some (n % 64, rest) := by
  have hn : (UInt8.ofNat n).toNat = n := UInt8.toNat_ofNat_of_lt' (Nat.lt_of_le_of_lt hhi hi.toNat_lt)
  rw [continuation, if_pos, hn]
  rw [UInt8.le_iff_toNat_le, UInt8.le_iff_toNat_le, hn]
  exact ⟨hlo, hhi⟩

lemma continuation_tail {n : Nat} (h : n < 64) (rest : Bytes) :
    continuation 0x80 0xBF (UInt8.ofNat (n + 128) :: rest) = some (n, rest) := by
  rw [continuation_ofNat (by simp) (by simp; omega)]
  congr 2
  omega

lemma lead_lt {n : Nat} {b : UInt8} (hn : n < 256) : UInt8.ofNat n < b ↔ n < b.toNat := by
  rw [UInt8.lt_iff_toNat_lt, UInt8.toNat_ofNat_of_lt' hn]

lemma lt_lead {n : Nat} {b : UInt8} (hn : n < 256) : b < UInt8.ofNat n ↔ b.toNat < n := by
  rw [UInt8.lt_iff_toNat_lt, UInt8.toNat_ofNat_of_lt' hn]

lemma read_one {n : Nat} (h : n < 128) (rest : Bytes) :
    read (UInt8.ofNat n) rest = (some (Char.ofNat n), rest) := by
  have hn : n < 256 := by omega
  have hlt : UInt8.ofNat n < 0x80 := (lead_lt hn).mpr h
  rw [read, if_pos hlt, UInt8.toNat_ofNat_of_lt' hn]

/-- A lead byte and the byte after it, which lies in the range for that lead byte. -/
lemma read_lead {n m : Nat} (hn : 194 ≤ n) (hn' : n ≤ 244)
    (hlo : (secondRange (UInt8.ofNat n)).1.toNat ≤ m)
    (hhi : m ≤ (secondRange (UInt8.ofNat n)).2.toNat) (rest : Bytes) :
    read (UInt8.ofNat n) (UInt8.ofNat m :: rest) =
      if n < 224 then (some (Char.ofNat (n % 32 * 64 + m % 64)), rest)
      else
        match continuation 0x80 0xBF rest with
        | none => (none, rest)
        | some (c, rest₃) =>
          if n < 240 then (some (Char.ofNat ((n % 16 * 64 + m % 64) * 64 + c)), rest₃)
          else
            match continuation 0x80 0xBF rest₃ with
            | none => (none, rest₃)
            | some (d, rest₄) =>
              (some (Char.ofNat (((n % 8 * 64 + m % 64) * 64 + c) * 64 + d)), rest₄) := by
  have hto : (UInt8.ofNat n).toNat = n := UInt8.toNat_ofNat_of_lt' (by omega : n < 256)
  rw [read, if_neg, if_neg]
  · dsimp only
    rw [continuation_ofNat hlo hhi]
    simp only [lead_lt (show n < 256 by omega), hto]
    rfl
  · rw [lead_lt (by omega), lt_lead (by omega)]
    simp
    omega
  · rw [lead_lt (by omega)]
    simp
    omega

lemma secondRange_ofNat {n m : Nat} (hn : 194 ≤ n) (hn' : n ≤ 244) (hlo : 128 ≤ m)
    (hhi : m < 192) (h0 : n = 224 → 160 ≤ m) (h1 : n = 237 → m < 160) (h2 : n = 240 → 144 ≤ m)
    (h3 : n = 244 → m < 144) :
    (secondRange (UInt8.ofNat n)).1.toNat ≤ m ∧ m ≤ (secondRange (UInt8.ofNat n)).2.toNat := by
  have hto : (UInt8.ofNat n).toNat = n := UInt8.toNat_ofNat_of_lt' (by omega : n < 256)
  unfold secondRange
  simp only [← UInt8.toNat_inj, hto]
  split_ifs with g0 g1 g2 g3
  all_goals simp at *
  all_goals omega

/-- The bytes of a character are read as that character, whatever follows them. -/
lemma read_encodeChar (c : Char) (rest : Bytes) :
    ∃ b bs, String.utf8EncodeChar c = b :: bs ∧ read b (bs ++ rest) = (some c, rest) := by
  have hc : Char.ofNat c.val.toNat = c := Char.ofNat_toNat c
  have hvalid : c.val.toNat < 0xD800 ∨ 0xDFFF < c.val.toNat ∧ c.val.toNat < 0x110000 := c.valid
  rw [String.utf8EncodeChar]
  -- One case for each number of bytes. Surrogates are no characters, which keeps the second byte
  -- within the narrower ranges.
  generalize c.val.toNat = v at hc hvalid ⊢
  by_cases h1 : v ≤ 127
  · refine ⟨_, _, if_pos h1, ?_⟩
    rw [List.nil_append, read_one (by omega), hc]
  rw [if_neg h1]
  by_cases h2 : v ≤ 2047
  · refine ⟨_, _, if_pos h2, ?_⟩
    obtain ⟨hlo, hhi⟩ := secondRange_ofNat (n := v / 64 % 32 + 192) (m := v % 64 + 128)
      (by omega) (by omega) (by omega) (by omega) (by omega) (by omega) (by omega) (by omega)
    rw [List.cons_append, List.nil_append, read_lead (by omega) (by omega) hlo hhi,
      if_pos (by omega), ← hc]
    congr 3
    omega
  rw [if_neg h2]
  by_cases h3 : v ≤ 65535
  · refine ⟨_, _, if_pos h3, ?_⟩
    obtain ⟨hlo, hhi⟩ := secondRange_ofNat (n := v / 4096 % 16 + 224) (m := v / 64 % 64 + 128)
      (by omega) (by omega) (by omega) (by omega) (by omega) (by omega) (by omega) (by omega)
    simp only [List.cons_append, List.nil_append]
    rw [read_lead (by omega) (by omega) hlo hhi, if_neg (by omega),
      continuation_tail (Nat.mod_lt _ (by decide))]
    dsimp only
    rw [if_pos (by omega), ← hc]
    congr 3
    omega
  · refine ⟨_, _, if_neg h3, ?_⟩
    obtain ⟨hlo, hhi⟩ := secondRange_ofNat (n := v / 262144 % 8 + 240) (m := v / 4096 % 64 + 128)
      (by omega) (by omega) (by omega) (by omega) (by omega) (by omega) (by omega) (by omega)
    simp only [List.cons_append, List.nil_append]
    rw [read_lead (by omega) (by omega) hlo hhi, if_neg (by omega),
      continuation_tail (Nat.mod_lt _ (by decide))]
    dsimp only
    rw [if_neg (by omega), continuation_tail (Nat.mod_lt _ (by decide)), ← hc]
    dsimp only
    congr 3
    omega

theorem pieces_encode (cs : List Char) : pieces (encode cs) = cs.map some := by
  induction cs with
  | nil => rw [encode, List.flatMap_nil, pieces, List.map_nil]
  | cons c rest ih =>
    obtain ⟨b, bs, hc, hread⟩ := read_encodeChar c (encode rest)
    have he : encode (c :: rest) = b :: (bs ++ encode rest) := by
      rw [encode, List.flatMap_cons, hc]
      rfl
    rw [he, pieces, hread, ih, List.map_cons]

lemma mapM_id_eq_some_iff {ps : List (Option Char)} {cs : List Char} :
    ps.mapM id = some cs ↔ ps = cs.map some := by
  induction ps generalizing cs with
  | nil => cases cs <;> simp
  | cons p ps ih =>
    cases p with
    | none => cases cs <;> simp [List.mapM_cons]
    | some c =>
      cases cs with
      | nil => simp [List.mapM_cons, Option.bind_eq_some_iff]
      | cons d cs => simp [List.mapM_cons, Option.bind_eq_some_iff, ih, and_comm]

/-- Strict decoding succeeds where no sequence is broken. -/
lemma decode?_eq_some_iff {bs : Bytes} {cs : List Char} :
    decode? bs = some cs ↔ pieces bs = cs.map some := mapM_id_eq_some_iff

theorem decode?_encode (cs : List Char) : decode? (encode cs) = some cs := by
  rw [decode?_eq_some_iff, pieces_encode]

theorem decodeLossy_of_decode? {bs : Bytes} {cs : List Char} (h : decode? bs = some cs) :
    decodeLossy bs = String.ofList cs := by
  rw [decodeLossy, decode?_eq_some_iff.mp h, List.map_map]
  exact congrArg String.ofList (List.map_id cs)

theorem decodeLossy_ofString (s : String) : decodeLossy (ofString s) = s := by
  rw [ofString, decodeLossy_of_decode? (decode?_encode _), String.ofList_toList]

end GatedRelay.Utf8
