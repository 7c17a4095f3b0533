import GatedRelay.Text.Quoted
import Mathlib.Data.List.Basic
import Mathlib.Tactic.Common

/-!
# Reading quoted texts

The inside of a quoted text is cut in one way only into escapes and characters that stand for
themselves. So the text in quotes is read back, and nothing but quoted texts is read.
-/

namespace GatedRelay.Text.Quoted

/-- The letter of each escape and the character that the escape stands for. -/
def escapes : List (Char × Char) :=
  [('a', '\x07'), ('b', '\x08'), ('f', '\x0c'), ('n', '\n'), ('r', '\r'), ('t', '\t'),
    ('v', '\x0b'), ('\\', '\\'), ('"', '"')]

/-- The control characters among those that have an escape. -/
def controls : List Char := ['\x07', '\x08', '\x0c', '\n', '\r', '\t', '\x0b']

/-- A character that stands for itself. -/
def IsPlain (c : Char) : Prop := c ≠ '"' ∧ c ≠ '\\' ∧ c ∉ controls

instance (c : Char) : Decidable (IsPlain c) := inferInstanceAs (Decidable (_ ∧ _ ∧ _))

/-- The parts of the inside of a quoted text. -/
inductive IsPart : List Char → Prop
  | plain {c : Char} (hc : IsPlain c) : IsPart [c]
  | escape {letter c : Char} (h : (letter, c) ∈ escapes) : IsPart ['\\', letter]

/-- What a text of escapes and plain characters stands for; other texts stand for nothing. -/
def unescape? : List Char → Option (List Char)
  | [] => some []
  | '\\' :: letter :: rest =>
    match escapes.lookup letter with
    | some c => (unescape? rest).map (c :: ·)
    | none => none
  | c :: rest => if IsPlain c then (unescape? rest).map (c :: ·) else none

lemma isPlain_or_mem_escapes (c : Char) : IsPlain c ∨ ∃ letter, (letter, c) ∈ escapes := by
  rw [or_iff_not_imp_left]
  intro hc
  have hmem : c ∈ escapes.map Prod.snd := by
    by_contra hnone
    simp only [escapes, List.map_cons, List.map_nil, List.mem_cons, List.not_mem_nil, or_false,
      not_or] at hnone
    exact hc (by simp [IsPlain, controls, hnone])
  obtain ⟨⟨letter, d⟩, he, rfl⟩ := List.mem_map.mp hmem
  exact ⟨letter, he⟩

lemma encodeChar_of_isPlain {c : Char} (hc : IsPlain c) : encodeChar c = [c] := by
  obtain ⟨hquote, hbackslash, hcontrols⟩ := hc
  simp only [controls, List.mem_cons, List.not_mem_nil, or_false, not_or] at hcontrols
  simp [encodeChar, escapeLetter?, hquote, hbackslash, hcontrols]

lemma encodeChar_of_mem_escapes {letter c : Char} (h : (letter, c) ∈ escapes) :
    encodeChar c = ['\\', letter] := by
  have hall : ∀ e ∈ escapes, encodeChar e.2 = ['\\', e.1] := by decide
  exact hall _ h

lemma lookup_of_mem_escapes {letter c : Char} (h : (letter, c) ∈ escapes) :
    escapes.lookup letter = some c := by
  have hall : ∀ e ∈ escapes, escapes.lookup e.1 = some e.2 := by decide
  exact hall _ h

lemma isPart_encodeChar (c : Char) : IsPart (encodeChar c) := by
  obtain hc | ⟨letter, h⟩ := isPlain_or_mem_escapes c
  · rw [encodeChar_of_isPlain hc]
    exact .plain hc
  · rw [encodeChar_of_mem_escapes h]
    exact .escape h

lemma notMem_controls_of_isPart {p : List Char} (hp : IsPart p) {c : Char} (hc : c ∈ p) :
    c ∉ controls := by
  cases hp with
  | plain hplain =>
    rw [List.mem_singleton.mp hc]
    exact hplain.2.2
  | @escape letter d h =>
    have hall : ∀ e ∈ escapes, e.1 ∉ controls := by decide
    simp only [List.mem_cons, List.not_mem_nil, or_false] at hc
    rcases hc with rfl | rfl
    · decide
    · exact hall _ h

lemma mem_escapes_of_lookup {letter c : Char} (h : escapes.lookup letter = some c) :
    (letter, c) ∈ escapes := by
  obtain ⟨before, after, he, -⟩ := List.lookup_eq_some_iff.mp h
  rw [he]
  simp

lemma unescape?_of_isPlain {c : Char} (hc : IsPlain c) (rest : List Char) :
    unescape? (c :: rest) = (unescape? rest).map (c :: ·) := by
  rw [unescape?, if_pos hc]
  -- The case of an escape comes first, but a plain character does not begin one.
  rintro letter rest rfl rfl
  exact hc.2.1 rfl

/-- A character comes back from the part that it is written as, whatever follows. -/
lemma unescape?_encodeChar (c : Char) (rest : List Char) :
    unescape? (encodeChar c ++ rest) = (unescape? rest).map (c :: ·) := by
  obtain hc | ⟨letter, h⟩ := isPlain_or_mem_escapes c
  · rw [encodeChar_of_isPlain hc]
    exact unescape?_of_isPlain hc rest
  · rw [encodeChar_of_mem_escapes h, List.cons_append, List.singleton_append, unescape?,
      lookup_of_mem_escapes h]

lemma unescape?_flatMap (s : List Char) : unescape? (s.flatMap encodeChar) = some s := by
  induction s with
  | nil => rfl
  | cons c rest ih =>
    rw [List.flatMap_cons, unescape?_encodeChar, ih]
    rfl

/-- Each part that is read is the one that its character is written as. -/
lemma eq_flatMap_of_unescape? {inside s : List Char} (h : unescape? inside = some s) :
    inside = s.flatMap encodeChar := by
  fun_induction unescape? inside generalizing s with
  | case1 =>
    cases h
    rfl
  | case2 letter rest c hlookup ih =>
    obtain ⟨tail, htail, rfl⟩ := Option.map_eq_some_iff.mp h
    rw [List.flatMap_cons, encodeChar_of_mem_escapes (mem_escapes_of_lookup hlookup), ← ih htail]
    rfl
  | case4 c rest hescape hc ih =>
    obtain ⟨tail, htail, rfl⟩ := Option.map_eq_some_iff.mp h
    rw [List.flatMap_cons, encodeChar_of_isPlain hc, ← ih htail]
    rfl
  | case3 | case5 => cases h

lemma unescape?_eq_some_iff {inside s : List Char} :
    unescape? inside = some s ↔ inside = s.flatMap encodeChar := by
  constructor
  · exact eq_flatMap_of_unescape?
  · rintro rfl
    exact unescape?_flatMap s

/-- A quoted text stands between double quotes and consists of escapes and characters that are
neither quotes nor backslashes nor controls with an escape. What its inside stands for is the text,
and no other text stands for it, so that different texts have different quotations. -/
theorem encode_readable :
    (∀ s, ∃ parts : List (List Char), encode s = '"' :: (parts.flatten ++ ['"']) ∧
      (∀ p ∈ parts, IsPart p) ∧ (∀ c ∈ parts.flatten, c ∉ controls) ∧
      unescape? parts.flatten = some s) ∧
    (∀ inside s, unescape? inside = some s ↔ encode s = '"' :: (inside ++ ['"'])) ∧
    Function.Injective encode := by
  have hread : ∀ inside s, unescape? inside = some s ↔ encode s = '"' :: (inside ++ ['"']) := by
    intro inside s
    rw [unescape?_eq_some_iff, encode, List.cons_append, List.cons_inj_right,
      List.append_left_inj, eq_comm]
  refine ⟨fun s => ⟨s.map encodeChar, rfl, fun p hp => ?_, fun c hc => ?_, ?_⟩, hread, ?_⟩
  · obtain ⟨c, -, rfl⟩ := List.mem_map.mp hp
    exact isPart_encodeChar c
  · obtain ⟨p, hp, hcp⟩ := List.mem_flatten.mp hc
    obtain ⟨d, -, rfl⟩ := List.mem_map.mp hp
    exact notMem_controls_of_isPart (isPart_encodeChar d) hcp
  · exact unescape?_flatMap s
  · intro s s' h
    have hs : unescape? (s.flatMap encodeChar) = some s' := (hread _ _).mpr h.symm
    rw [unescape?_flatMap] at hs
    exact Option.some.inj hs

end GatedRelay.Text.Quoted
