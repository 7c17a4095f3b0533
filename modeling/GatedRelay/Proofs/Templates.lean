import GatedRelay.Expr.Format
import GatedRelay.Proofs.Attempts
import Mathlib.Data.List.TakeWhile

/-!
# What templates make of their arguments

A template is put together from characters, percent signs and directives for values, and each
directive for a value takes the next argument. So templates can be joined with their arguments, and
one that succeeds has as many directives for values as arguments.
-/

namespace GatedRelay.Expr.Format

/-- What a precision says and its text: nothing, or a point and the digits of a 64-bit number. -/
inductive SpellsPrecision : Option Nat → List Char → Prop
  | absent : SpellsPrecision none []
  | given {n : Nat} {ds : List Char} (hdigits : ∀ c ∈ ds, Numeral.isDigit c = true)
    (hn : Numeral.read? 10 ds = some n) (hlt : n < 0x10000000000000000) :
    SpellsPrecision (some n) ('.' :: ds)

/-- The text of a precision does not go on with this character. -/
def EndsPrecision (p : List Char) (verb : Char) : Prop :=
  if p = [] then verb ≠ '.' else Numeral.isDigit verb = false

/-- What a template makes of its arguments, from the left. -/
inductive Formats : List Char → List Value → List Char → Prop
  | nil : Formats [] [] []
  | char {c : Char} {t out : List Char} {args : List Value} (hc : c ≠ '%') :
    Formats t args out → Formats (c :: t) args (c :: out)
  | percent {precision : Option Nat} {p t out : List Char} {args : List Value}
    (hp : SpellsPrecision precision p) :
    Formats t args out → Formats ('%' :: (p ++ '%' :: t)) args ('%' :: out)
  | value {precision : Option Nat} {verb : Char} {p t text out : List Char} {a : Value}
    {args : List Value} (hp : SpellsPrecision precision p)
    (htext : argument precision verb a = .ok text) :
    Formats t args out → Formats ('%' :: (p ++ verb :: t)) (a :: args) (text ++ out)

/-- The number of directives in a template that take a value. A directive goes as far as its letter,
which is the first character that does not belong to a precision. -/
inductive HasDirectives : List Char → Nat → Prop
  | nil : HasDirectives [] 0
  | char {c : Char} {t : List Char} {n : Nat} (hc : c ≠ '%') :
    HasDirectives t n → HasDirectives (c :: t) n
  | percent {precision : Option Nat} {p t : List Char} {n : Nat}
    (hp : SpellsPrecision precision p) :
    HasDirectives t n → HasDirectives ('%' :: (p ++ '%' :: t)) n
  | value {precision : Option Nat} {verb : Char} {p t : List Char} {n : Nat}
    (hp : SpellsPrecision precision p) (hends : EndsPrecision p verb) (hverb : verb ≠ '%') :
    HasDirectives t n → HasDirectives ('%' :: (p ++ verb :: t)) (n + 1)

/-! ### Directives -/

lemma endsPrecision_percent (p : List Char) : EndsPrecision p '%' := by
  unfold EndsPrecision
  split <;> decide

/-- The letters that format values. -/
def verbs : List Char := ['s', 'd', 'f', 'e', 'x', 'X', 'o', 'b']

lemma mem_verbs_of_argument {precision : Option Nat} {verb : Char} {a : Value} {text : List Char}
    (h : argument precision verb a = .ok text) : verb ∈ verbs := by
  by_contra hnone
  simp only [verbs, List.mem_cons, List.not_mem_nil, or_false, not_or] at hnone
  obtain ⟨hs, hd, hf, he, hx, hX, ho, hb⟩ := hnone
  unfold argument at h
  rw [if_neg hs, if_neg (by simp [hf, he])] at h
  cases a <;> simp [hd, hx, hX, ho, hb, isBaseVerb] at h

/-- A letter that formats a value is neither a part of a precision nor a percent sign. -/
lemma endsPrecision_of_mem_verbs {verb : Char} (h : verb ∈ verbs) (p : List Char) :
    EndsPrecision p verb ∧ verb ≠ '%' := by
  simp only [verbs, List.mem_cons, List.not_mem_nil, or_false] at h
  unfold EndsPrecision
  rcases h with rfl | rfl | rfl | rfl | rfl | rfl | rfl | rfl <;> split <;> decide

/-- A precision is read back from its text, up to where the text ends. -/
lemma precision?_append {precision : Option Nat} {p : List Char}
    (hp : SpellsPrecision precision p) {verb : Char} (hends : EndsPrecision p verb)
    (t : List Char) :
    precision? (p ++ verb :: t) = .ok precision ∧ afterPrecision (p ++ verb :: t) = verb :: t := by
  cases hp with
  | absent =>
    rw [EndsPrecision, if_pos rfl] at hends
    rw [List.nil_append]
    constructor
    · unfold precision?
      split
      · next heq => exact absurd (List.cons.inj heq).1 hends
      · rfl
    · unfold afterPrecision
      split
      · next heq => exact absurd (List.cons.inj heq).1 hends
      · rfl
  | @given n ds hdigits hn hlt =>
    rw [EndsPrecision, if_neg (by simp)] at hends
    have hstop : ¬Numeral.isDigit verb = true := by simp [hends]
    have htake : (ds ++ verb :: t).takeWhile Numeral.isDigit = ds := by
      rw [List.takeWhile_append_of_pos hdigits, List.takeWhile_cons_of_neg hstop, List.append_nil]
    have hdrop : (ds ++ verb :: t).dropWhile Numeral.isDigit = verb :: t := by
      rw [List.dropWhile_append_of_pos hdigits, List.dropWhile_cons_of_neg hstop]
    constructor
    · rw [List.cons_append, precision?, htake, hn]
      exact if_pos hlt
    · rw [List.cons_append, afterPrecision, hdrop]

lemma spellsPrecision_of_precision? {cs : List Char} {precision : Option Nat}
    (h : precision? cs = .ok precision) :
    ∃ p, SpellsPrecision precision p ∧ cs = p ++ afterPrecision cs := by
  unfold precision? at h
  split at h
  · next rest =>
    split at h
    · next n hn =>
      split_ifs at h with hlt
      cases h
      refine ⟨'.' :: rest.takeWhile Numeral.isDigit,
        .given (fun c hc => List.mem_takeWhile_imp hc) hn hlt, ?_⟩
      rw [afterPrecision, List.cons_append, List.takeWhile_append_dropWhile]
    · cases h
  · next hpoint =>
    cases h
    refine ⟨[], .absent, ?_⟩
    rw [List.nil_append, afterPrecision]
    exact hpoint

/-! ### Templates -/

lemma pieces_char {c : Char} (hc : c ≠ '%') (t : List Char) :
    pieces (c :: t) = .char c :: pieces t := by
  rw [pieces, if_pos hc]

lemma pieces_directive {precision : Option Nat} {p : List Char}
    (hp : SpellsPrecision precision p) {verb : Char} (hends : EndsPrecision p verb)
    (t : List Char) :
    pieces ('%' :: (p ++ verb :: t)) =
      (if verb = '%' then .char '%' else .value precision verb) :: pieces t := by
  obtain ⟨hprecision, hafter⟩ := precision?_append hp hends t
  rw [pieces, if_neg (by simp), hprecision]
  dsimp only
  split
  · next hnil => simp [hafter] at hnil
  · next hcons =>
    rw [hafter] at hcons
    obtain ⟨rfl, rfl⟩ := List.cons.inj hcons
    rfl

lemma fill_of_formats {t out : List Char} {args : List Value} (h : Formats t args out)
    (supplied : Nat) : fill supplied (pieces t) args = .ok out := by
  induction h with
  | nil =>
    rw [pieces]
    rfl
  | char hc _ ih =>
    rw [pieces_char hc, fill, ih]
    rfl
  | percent hp _ ih =>
    rw [pieces_directive hp (endsPrecision_percent _), if_pos rfl, fill, ih]
    rfl
  | value hp htext _ ih =>
    obtain ⟨hends, hverb⟩ := endsPrecision_of_mem_verbs (mem_verbs_of_argument htext) _
    rw [pieces_directive hp hends, if_neg hverb, fill, htext]
    dsimp only
    rw [ih]
    rfl

-- By the cuts of the template: a directive that breaks off gives no text, and the others leave the
-- rest of the template with the rest of the arguments.
lemma formats_of_fill {supplied : Nat} {t out : List Char} {args : List Value}
    (h : fill supplied (pieces t) args = .ok out) : Formats t args out := by
  fun_induction pieces t generalizing args out with
  | case1 =>
    cases args <;> cases h
    exact .nil
  | case2 c rest hc ih =>
    obtain ⟨tail, htail, rfl⟩ := Attempt.map_eq_ok_iff.mp h
    exact .char hc (ih htail)
  | case3 => cases h
  | case4 => cases h
  | case5 c rest hc precision hprecision verb rest' hafter ih =>
    obtain rfl : c = '%' := not_not.mp hc
    obtain ⟨p, hp, hrest⟩ := spellsPrecision_of_precision? hprecision
    rw [hafter] at hrest
    subst hrest
    split_ifs at h with hverb
    · subst hverb
      obtain ⟨tail, htail, rfl⟩ := Attempt.map_eq_ok_iff.mp h
      exact .percent hp (ih htail)
    · cases args with
      | nil => cases h
      | cons a args =>
        rw [fill] at h
        split at h
        · cases h
        · next htext =>
          obtain ⟨tail, htail, rfl⟩ := Attempt.map_eq_ok_iff.mp h
          exact .value hp htext (ih htail)

theorem format_eq_ok_iff {t out : List Char} {args : List Value} :
    format t args = .ok out ↔ Formats t args out :=
  ⟨formats_of_fill, fun h => fill_of_formats h _⟩

lemma Formats.append {t₁ t₂ out₁ out₂ : List Char} {args₁ args₂ : List Value}
    (h₁ : Formats t₁ args₁ out₁) (h₂ : Formats t₂ args₂ out₂) :
    Formats (t₁ ++ t₂) (args₁ ++ args₂) (out₁ ++ out₂) := by
  induction h₁ with
  | nil => exact h₂
  | char hc _ ih => exact .char hc ih
  | percent hp _ ih =>
    rw [List.cons_append, List.append_assoc]
    exact .percent hp ih
  | value hp htext _ ih =>
    rw [List.cons_append, List.append_assoc, List.append_assoc]
    exact .value hp htext ih

lemma Formats.hasDirectives {t out : List Char} {args : List Value} (h : Formats t args out) :
    HasDirectives t args.length := by
  induction h with
  | nil => exact .nil
  | char hc _ ih => exact .char hc ih
  | percent hp _ ih => exact .percent hp ih
  | value hp htext _ ih =>
    obtain ⟨hends, hverb⟩ := endsPrecision_of_mem_verbs (mem_verbs_of_argument htext) _
    exact .value hp hends hverb ih

def Piece.isValue : Piece → Bool
  | .value _ _ => true
  | _ => false

/-- The directives of a template are those that it is cut at, so that their number is fixed. -/
lemma HasDirectives.countP_pieces {t : List Char} {n : Nat} (h : HasDirectives t n) :
    (pieces t).countP Piece.isValue = n := by
  induction h with
  | nil =>
    rw [pieces]
    rfl
  | char hc _ ih => rw [pieces_char hc, List.countP_cons_of_neg (by simp [Piece.isValue]), ih]
  | percent hp _ ih =>
    rw [pieces_directive hp (endsPrecision_percent _), if_pos rfl,
      List.countP_cons_of_neg (by simp [Piece.isValue]), ih]
  | value hp hends hverb _ ih =>
    rw [pieces_directive hp hends, if_neg hverb, List.countP_cons_of_pos rfl, ih]

/-- A text with each percent sign twice. -/
def doubled (s : List Char) : List Char := s.flatMap fun c => if c = '%' then ['%', '%'] else [c]

lemma formats_doubled (s : List Char) : Formats (doubled s) [] s := by
  induction s with
  | nil => exact .nil
  | cons c rest ih =>
    rw [doubled, List.flatMap_cons]
    split_ifs with hc
    · rw [hc]
      exact .percent .absent ih
    · exact .char hc ih

/-- Templates are joined together with their arguments, one that succeeds has a directive for each
of its arguments, and percent signs that are written twice stand for themselves. -/
theorem format_joined :
    (∀ t₁ t₂ args₁ args₂ out₁ out₂, format t₁ args₁ = .ok out₁ → format t₂ args₂ = .ok out₂ →
      format (t₁ ++ t₂) (args₁ ++ args₂) = .ok (out₁ ++ out₂)) ∧
    (∀ t args out, format t args = .ok out → ∀ n, HasDirectives t n ↔ n = args.length) ∧
    ∀ s, format (doubled s) [] = .ok s := by
  refine ⟨fun t₁ t₂ args₁ args₂ out₁ out₂ h₁ h₂ => ?_, fun t args out h n => ?_, fun s => ?_⟩
  · exact format_eq_ok_iff.mpr ((format_eq_ok_iff.mp h₁).append (format_eq_ok_iff.mp h₂))
  · have hall := (format_eq_ok_iff.mp h).hasDirectives
    constructor
    · intro hn
      rw [← hn.countP_pieces, hall.countP_pieces]
    · rintro rfl
      exact hall
  · exact format_eq_ok_iff.mpr (formats_doubled s)

end GatedRelay.Expr.Format
