import GatedRelay.Proofs.Encoding
import GatedRelay.Proofs.Occurrences
import Mathlib.Order.Bounds.Image

/-!
# Offsets in bytes and positions in characters

A search for the bytes of one text among those of another finds the first or the last place where
the characters stand, and the characters that start before the offset of that place are the ones
before it.
-/

namespace GatedRelay

namespace Utf8

variable {s t : List Char} {bs : Bytes}

@[simp]
lemma encode_nil : encode [] = [] := rfl

lemma encode_cons (c : Char) (s : List Char) :
    encode (c :: s) = String.utf8EncodeChar c ++ encode s := List.flatMap_cons

lemma encode_append (s t : List Char) : encode (s ++ t) = encode s ++ encode t :=
  List.flatMap_append

lemma length_encode_cons (c : Char) (s : List Char) :
    (encode (c :: s)).length = c.utf8Size + (encode s).length := by
  simp [encode_cons]

lemma encode_eq_nil_iff : encode s = [] ↔ s = [] := by
  cases s with
  | nil => simp
  | cons c s => simp [encode_cons, String.utf8EncodeChar_ne_nil]

/-- The bytes of a character tell where it ends. -/
lemma encodeChar_append_inj {c d : Char} {bs bs' : Bytes}
    (h : String.utf8EncodeChar c ++ bs = String.utf8EncodeChar d ++ bs') : c = d ∧ bs = bs' := by
  obtain ⟨b, rest, hc, hread⟩ := read_encodeChar c bs
  obtain ⟨b', rest', hd, hread'⟩ := read_encodeChar d bs'
  rw [hc, hd, List.cons_append, List.cons_append, List.cons.injEq] at h
  rw [h.1, h.2, hread'] at hread
  exact ⟨Option.some.inj (Prod.mk.inj hread).1.symm, (Prod.mk.inj hread).2.symm⟩

/-- What starts with the bytes of a text, and is a text, starts with the text. -/
lemma exists_append_of_encode_append (h : encode s ++ bs = encode t) :
    ∃ rest, t = s ++ rest ∧ bs = encode rest := by
  induction s generalizing t with
  | nil => exact ⟨t, rfl, h⟩
  | cons c s ih =>
    cases t with
    | nil =>
      obtain ⟨hs, -⟩ := List.append_eq_nil_iff.mp h
      exact absurd (encode_eq_nil_iff.mp hs) (List.cons_ne_nil c s)
    | cons d t =>
      rw [encode_cons, encode_cons, List.append_assoc] at h
      obtain ⟨rfl, hrest⟩ := encodeChar_append_inj h
      obtain ⟨rest, rfl, hbs⟩ := ih hrest
      exact ⟨rest, rfl, hbs⟩

/-- Of the bytes of a character only the first one can be a first byte. -/
lemma eq_nil_of_encodeChar {c : Char} {before after : Bytes} {b : UInt8} (hb : b.IsUTF8FirstByte)
    (h : String.utf8EncodeChar c = before ++ b :: after) : before = [] := by
  have hlength : before.length < (String.utf8EncodeChar c).length := by simp [h]
  have hget : (String.utf8EncodeChar c)[before.length] = b := by simp [h]
  rw [← hget, UInt8.isUTF8FirstByte_getElem_utf8EncodeChar] at hb
  exact List.length_eq_zero_iff.mp hb

/-- So a first byte among the bytes of a text is one at which a character starts. -/
lemma exists_encode_of_first {before after : Bytes} {b : UInt8} (hb : b.IsUTF8FirstByte)
    (h : encode s = before ++ b :: after) :
    ∃ start rest, s = start ++ rest ∧ before = encode start ∧ b :: after = encode rest := by
  induction s generalizing before with
  | nil => simp at h
  | cons c s ih =>
    have hcons := encode_cons c s
    rw [hcons, List.append_eq_append_iff] at h
    obtain ⟨more, hbefore, hs⟩ | ⟨more, hc, hafter⟩ := h
    · obtain ⟨start, rest, rfl, hmore, hrest⟩ := ih hs
      exact ⟨c :: start, rest, rfl, by rw [hbefore, hmore, encode_cons], hrest⟩
    · cases more with
      | nil => exact ⟨[c], s, rfl, by simpa [encode_cons] using hc.symm, hafter⟩
      | cons x more =>
        obtain ⟨rfl, rfl⟩ := List.cons.inj hafter
        obtain rfl := eq_nil_of_encodeChar hb hc
        exact ⟨[], c :: s, rfl, rfl, by rw [hcons, hc]; rfl⟩

lemma exists_first_of_ne_nil (hs : s ≠ []) : ∃ b bs, encode s = b :: bs ∧ b.IsUTF8FirstByte := by
  cases s with
  | nil => exact absurd rfl hs
  | cons c s =>
    cases hc : String.utf8EncodeChar c with
    | nil => exact absurd hc String.utf8EncodeChar_ne_nil
    | cons b bs =>
      have hlength : 0 < (String.utf8EncodeChar c).length := by simp [hc]
      have hfirst : (String.utf8EncodeChar c)[0].IsUTF8FirstByte :=
        UInt8.isUTF8FirstByte_getElem_utf8EncodeChar.mpr rfl
      simp only [hc, List.getElem_cons_zero] at hfirst
      exact ⟨b, bs ++ encode s, by rw [encode_cons, hc]; rfl, hfirst⟩

end Utf8

namespace Text

open Utf8 (encode)

variable {needle text : List Char} {i j : Nat}

/-- The offset in bytes at which the characters from a position on start. -/
def byteOffset (text : List Char) (i : Nat) : Nat := (encode (text.take i)).length

lemma byteOffset_monotone (text : List Char) : Monotone (byteOffset text) := by
  intro i j hij
  have htake : text.take j = text.take i ++ (text.drop i).take (j - i) := by
    rw [← List.take_add, Nat.add_sub_cancel' hij]
  rw [byteOffset, byteOffset, htake, Utf8.encode_append, List.length_append]
  exact Nat.le_add_right _ _

/-- The bytes of a needle stand where the needle stands, and nowhere else. -/
lemma occursAt_encode_iff (hn : needle ≠ []) :
    OccursAt (encode needle) (encode text) j ↔
      ∃ i, OccursAt needle text i ∧ byteOffset text i = j := by
  constructor
  · rintro ⟨hj, bs, hbs⟩
    obtain ⟨b, rest, hneedle, hb⟩ := Utf8.exists_first_of_ne_nil hn
    have htext : encode text = (encode text).take j ++ b :: (rest ++ bs) := by
      rw [← List.cons_append, ← hneedle, hbs, List.take_append_drop]
    obtain ⟨start, more, rfl, hstart, hmore⟩ := Utf8.exists_encode_of_first hb htext
    rw [← List.cons_append, ← hneedle] at hmore
    obtain ⟨after, rfl, -⟩ := Utf8.exists_append_of_encode_append hmore
    refine ⟨start.length, occursAt_append start after, ?_⟩
    rw [byteOffset, List.take_left, ← hstart, List.length_take_of_le hj]
  · rintro ⟨i, hi, rfl⟩
    have htext : encode text = encode (text.take i) ++
        (encode needle ++ encode (text.drop (i + needle.length))) := by
      rw [← Utf8.encode_append, ← Utf8.encode_append, ← hi.eq_append]
    rw [htext]
    exact occursAt_append _ _

/-! ### Counting characters -/

lemma charStarts_append (offset : Nat) (before after : List Char) :
    charStarts offset (before ++ after) =
      charStarts offset before ++ charStarts (offset + (encode before).length) after := by
  induction before generalizing offset with
  | nil => rfl
  | cons c rest ih =>
    rw [List.cons_append, charStarts, charStarts, ih, Utf8.length_encode_cons, Nat.add_assoc]
    rfl

lemma length_charStarts (offset : Nat) (text : List Char) :
    (charStarts offset text).length = text.length := by
  induction text generalizing offset with
  | nil => rfl
  | cons c rest ih => rw [charStarts, List.length_cons, ih, List.length_cons]

lemma lt_of_mem_charStarts {offset start : Nat} (h : start ∈ charStarts offset text) :
    start < offset + (encode text).length := by
  induction text generalizing offset with
  | nil => cases h
  | cons c rest ih =>
    have hpos := c.utf8Size_pos
    rw [Utf8.length_encode_cons]
    rcases List.mem_cons.mp h with rfl | h
    · omega
    · have hlt := ih h
      omega

theorem charPosition_byteOffset (hi : i ≤ text.length) :
    charPosition text (byteOffset text i) = i := by
  have hbefore : ∀ start ∈ charStarts 0 (text.take i),
      decide (start < byteOffset text i) = true := by
    intro start hstart
    have hlt := lt_of_mem_charStarts hstart
    rw [Nat.zero_add] at hlt
    exact decide_eq_true hlt
  have hafter : (charStarts (0 + (encode (text.take i)).length) (text.drop i)).takeWhile
      (fun start => start < byteOffset text i) = [] := by
    cases text.drop i with
    | nil => rfl
    | cons c rest => simp [charStarts, byteOffset]
  have hstarts : charStarts 0 text = charStarts 0 (text.take i) ++
      charStarts (0 + (encode (text.take i)).length) (text.drop i) := by
    rw [← charStarts_append, List.take_append_drop]
  rw [charPosition, hstarts, List.takeWhile_append_of_pos hbefore, hafter, List.append_nil,
    length_charStarts, List.length_take_of_le hi]

/-! ### Searches -/

lemma setOf_occursAt_encode (hn : needle ≠ []) :
    {j | OccursAt (encode needle) (encode text) j} =
      byteOffset text '' {i | OccursAt needle text i} :=
  Set.ext fun _ => occursAt_encode_iff hn

lemma encode_infix_iff (hn : needle ≠ []) :
    encode needle <:+: encode text ↔ needle <:+: text := by
  rw [← exists_occursAt_iff, ← exists_occursAt_iff]
  constructor
  · rintro ⟨j, hj⟩
    obtain ⟨i, hi, -⟩ := (occursAt_encode_iff hn).mp hj
    exact ⟨i, hi⟩
  · rintro ⟨i, hi⟩
    exact ⟨_, (occursAt_encode_iff hn).mpr ⟨i, hi, rfl⟩⟩

/-- Searches that agree up to what they count agree on positions. -/
lemma map_charPosition_eq {bytes? chars? : Option Nat} (hnone : chars? = none → bytes? = none)
    (hsome : ∀ i, chars? = some i → i ≤ text.length ∧ bytes? = some (byteOffset text i)) :
    bytes?.map (charPosition text) = chars? := by
  cases hchars : chars? with
  | none => rw [hnone hchars, Option.map_none]
  | some i =>
    obtain ⟨hi, hbytes⟩ := hsome i hchars
    rw [hbytes, Option.map_some, charPosition_byteOffset hi]

/-- The first place where the bytes stand, as a number of characters, is the first one where the
characters stand. -/
theorem indexOf?_encode (needle text : List Char) :
    (indexOf? (encode needle) (encode text)).map (charPosition text) = indexOf? needle text := by
  refine map_charPosition_eq (fun h => ?_) fun i h => ?_
  · have hn : needle ≠ [] := by
      rintro rfl
      exact indexOf?_eq_none_iff.mp h List.nil_infix
    rw [indexOf?_eq_none_iff] at h ⊢
    rwa [encode_infix_iff hn]
  · rw [indexOf?_eq_some_iff] at h ⊢
    refine ⟨h.1.1, ?_⟩
    by_cases hn : needle = []
    · subst hn
      obtain rfl : i = 0 := Nat.le_zero.mp (h.2 ⟨Nat.zero_le _, List.nil_prefix⟩)
      exact ⟨⟨Nat.zero_le _, List.nil_prefix⟩, fun j _ => Nat.zero_le j⟩
    · rw [setOf_occursAt_encode hn]
      exact (byteOffset_monotone text).map_isLeast h

theorem lastIndexOf?_encode (needle text : List Char) :
    (lastIndexOf? (encode needle) (encode text)).map (charPosition text) =
      lastIndexOf? needle text := by
  refine map_charPosition_eq (fun h => ?_) fun i h => ?_
  · have hn : needle ≠ [] := by
      rintro rfl
      exact lastIndexOf?_eq_none_iff.mp h List.nil_infix
    rw [lastIndexOf?_eq_none_iff] at h ⊢
    rwa [encode_infix_iff hn]
  · rw [lastIndexOf?_eq_some_iff] at h ⊢
    refine ⟨h.1.1, ?_⟩
    by_cases hn : needle = []
    · subst hn
      obtain rfl : i = text.length := le_antisymm h.1.1 (h.2 ⟨le_rfl, List.nil_prefix⟩)
      rw [byteOffset, List.take_length]
      exact ⟨⟨le_rfl, List.nil_prefix⟩, fun j hj => hj.1⟩
    · rw [setOf_occursAt_encode hn]
      exact (byteOffset_monotone text).map_isGreatest h

end Text

end GatedRelay
