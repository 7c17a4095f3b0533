import GatedRelay.Expr.Token
import Mathlib.Data.List.Basic
import Mathlib.Data.List.TakeWhile
import Mathlib.Tactic.Common

/-!
# Scanning text that was put together from tokens

An identifier ends where a character comes that is no part of a word. A parenthesis ends with
itself, and so does a point that no digit follows. So the tokens of a text can be found one after
the other.
-/

namespace GatedRelay.Expr.Token

/-- Whether a text is an identifier: a word that has no meaning of its own. -/
def IsIdentifier (w : List Char) : Prop :=
  w.head?.any isWordStart = true ∧ w.all isWordPart = true ∧
    w ∉ [['t', 'r', 'u', 'e'], ['f', 'a', 'l', 's', 'e'], ['n', 'u', 'l', 'l'], ['i', 'n']]

instance : DecidablePred IsIdentifier := fun _ => inferInstanceAs (Decidable (_ ∧ _ ∧ _))

/-- Whether a word can end before a text: neither more of the word comes nor a quote, before which
it could be the mark of a literal. -/
def EndsWord (cs : List Char) : Prop :=
  ∀ c ∈ cs.head?, isWordPart c = false ∧ c ≠ '"' ∧ c ≠ '\''

/-- The tokens of a text, however much of it may be looked at. -/
def Scans (cs : List Char) (ts : List Token) : Prop := ∀ fuel, cs.length ≤ fuel → scan fuel cs = ts

variable {w rest : List Char} {ts : List Token}

lemma Scans.ofText {cs : List Char} (h : Scans cs ts) : ofText cs = ts := h _ le_rfl

lemma Scans.nil : Scans [] [] := by
  intro fuel _
  cases fuel <;> rfl

/-- A token at the front, where neither blank nor comment is. -/
lemma Scans.cons {c : Char} {cs : List Char} {t : Token} (hb : Text.isBlank c = false)
    (hc : c ≠ '/') (ht : tokenAt? (c :: cs) = some (t, rest)) (hlen : rest.length ≤ cs.length)
    (h : Scans rest ts) : Scans (c :: cs) (t :: ts) := by
  intro fuel hfuel
  cases fuel with
  | zero => cases hfuel
  | succ fuel =>
    have hrest : rest.length ≤ fuel := hlen.trans (Nat.le_of_succ_le_succ hfuel)
    rw [scan, hb, ht]
    simp [hc, h fuel hrest]

/-! ### Words -/

lemma IsIdentifier.eq_cons (hw : IsIdentifier w) : ∃ c cs, w = c :: cs ∧ isWordStart c = true := by
  cases w with
  | nil => cases hw.1
  | cons c cs => exact ⟨c, cs, rfl, hw.1⟩

lemma ofWord_of_isIdentifier (hw : IsIdentifier w) : ofWord w = ident w := by
  obtain ⟨-, -, hreserved⟩ := hw
  simp only [List.mem_cons, List.not_mem_nil, or_false, not_or] at hreserved
  obtain ⟨htrue, hfalse, hnull, hin⟩ := hreserved
  rw [ofWord, if_neg htrue, if_neg hfalse, if_neg hnull, if_neg hin]

/-- A character with which a word begins begins nothing else, but for the marks of literals. -/
lemma isWordStart_apart {c : Char} (h : isWordStart c = true) :
    Text.isBlank c = false ∧ c ≠ '/' ∧ c ≠ '"' ∧ c ≠ '\'' ∧ Numeral.isDigit c = false := by
  have hascii : ∀ n < 128, isWordStart (Char.ofNat n) = true →
      Text.isBlank (Char.ofNat n) = false ∧ Char.ofNat n ≠ '/' ∧ Char.ofNat n ≠ '"' ∧
        Char.ofNat n ≠ '\'' ∧ Numeral.isDigit (Char.ofNat n) = false := by decide
  have hlt : c.toNat < 128 := by
    change (c == '_' || (decide (65 ≤ c.val ∧ c.val ≤ 90) || (97 ≤ c.val && c.val ≤ 122))) = true
      at h
    simp only [Bool.or_eq_true, beq_iff_eq, Bool.and_eq_true, decide_eq_true_eq,
      UInt32.le_iff_toNat_le] at h
    rcases h with rfl | ⟨-, h⟩ | ⟨-, h⟩
    · decide
    · exact Nat.lt_of_le_of_lt h (by decide)
    · exact Nat.lt_of_le_of_lt h (by decide)
  rw [← Char.ofNat_toNat c] at h ⊢
  exact hascii _ hlt h

lemma isWordPart_apart {c : Char} (h : isWordPart c = true) : c ≠ '"' ∧ c ≠ '\'' := by
  constructor
  · rintro rfl
    revert h
    decide
  · rintro rfl
    revert h
    decide

lemma takeWhile_isWordPart (hw : w.all isWordPart = true) (hr : EndsWord rest) :
    (w ++ rest).takeWhile isWordPart = w := by
  rw [List.takeWhile_append_of_pos (List.all_eq_true.mp hw)]
  cases rest with
  | nil => simp
  | cons c rest => simp [(hr c rfl).1]

lemma dropWhile_isWordPart (hw : w.all isWordPart = true) (hr : EndsWord rest) :
    (w ++ rest).dropWhile isWordPart = rest := by
  rw [List.dropWhile_append_of_pos (List.all_eq_true.mp hw)]
  cases rest with
  | nil => rfl
  | cons c rest => simp [(hr c rfl).1]

lemma quotedAt?_eq_none {c : Char} {cs : List Char} (hc : c ≠ '"' ∧ c ≠ '\'')
    (hcs : ∀ d ∈ cs.head?, d ≠ '"' ∧ d ≠ '\'') : quotedAt? (c :: cs) = none := by
  unfold quotedAt?
  cases cs with
  | nil => simp [hc]
  | cons d cs => simp [hc, hcs d rfl]

lemma wordAt?_word (hw : IsIdentifier w) (hr : EndsWord rest) :
    wordAt? (w ++ rest) = some (ident w, rest) := by
  have hpart : w.all isWordPart = true := hw.2.1
  obtain ⟨c, cs, rfl, hc⟩ := hw.eq_cons
  rw [wordAt?.eq_def]
  dsimp only [List.cons_append]
  rw [if_pos hc, ← List.cons_append, takeWhile_isWordPart hpart hr, dropWhile_isWordPart hpart hr,
    ofWord_of_isIdentifier hw]

lemma tokenAt?_word (hw : IsIdentifier w) (hr : EndsWord rest) :
    tokenAt? (w ++ rest) = some (ident w, rest) := by
  have hquoted : quotedAt? (w ++ rest) = none := by
    have hpart : w.all isWordPart = true := hw.2.1
    obtain ⟨c, cs, rfl, hc⟩ := hw.eq_cons
    obtain ⟨-, -, hdouble, hsingle, -⟩ := isWordStart_apart hc
    refine quotedAt?_eq_none ⟨hdouble, hsingle⟩ fun d hd => ?_
    cases cs with
    | nil => exact (hr d hd).2
    | cons e cs =>
      cases hd
      exact isWordPart_apart (List.all_eq_true.mp hpart d (by simp))
  rw [tokenAt?, hquoted, wordAt?_word hw hr]

lemma Scans.word (hw : IsIdentifier w) (hr : EndsWord rest) (h : Scans rest ts) :
    Scans (w ++ rest) (ident w :: ts) := by
  obtain ⟨c, cs, rfl, hc⟩ := hw.eq_cons
  obtain ⟨hblank, hslash, -⟩ := isWordStart_apart hc
  exact .cons hblank hslash (tokenAt?_word hw hr) (by simp) h

/-! ### Symbols -/

lemma quotedAt?_symbol {c : Char} (hc : c ∈ ['.', '(', ')']) (rest : List Char) :
    quotedAt? (c :: rest) = none := by
  unfold quotedAt?
  simp only [List.mem_cons, List.not_mem_nil, or_false] at hc
  rcases hc with rfl | rfl | rfl <;> cases rest <;> simp

lemma Scans.open (h : Scans rest ts) : Scans ('(' :: rest) (symbol .parenOpen :: ts) := by
  refine .cons (by decide) (by decide) ?_ le_rfl h
  rw [tokenAt?, quotedAt?_symbol (by decide)]
  rfl

lemma Scans.close (h : Scans rest ts) : Scans (')' :: rest) (symbol .parenClose :: ts) := by
  refine .cons (by decide) (by decide) ?_ le_rfl h
  rw [tokenAt?, quotedAt?_symbol (by decide)]
  rfl

lemma doubleAt?_dot (hr : ∀ c ∈ rest.head?, Numeral.isDigit c = false) :
    doubleAt? ('.' :: rest) = none := by
  have hwhole : digitsAt ('.' :: rest) = ([], '.' :: rest) := rfl
  have hfraction : digitsAt rest = ([], rest) := by
    cases rest with
    | nil => rfl
    | cons c rest => simp [digitsAt, hr c rfl]
  have hexponent : exponentAt? ('.' :: rest) = none := rfl
  simp only [doubleAt?, hwhole, hfraction, hexponent, List.isEmpty_nil, if_true]

lemma numberAt?_dot (hr : ∀ c ∈ rest.head?, Numeral.isDigit c = false) :
    numberAt? ('.' :: rest) = none := by
  have hhex : hexAt? ('.' :: rest) = none := rfl
  have hdigits : digitsAt ('.' :: rest) = ([], '.' :: rest) := rfl
  simp [numberAt?, doubleAt?_dot hr, hhex, hdigits]

/-- A point and the name of a member. -/
lemma Scans.member (hw : IsIdentifier w) (hr : EndsWord rest) (h : Scans rest ts) :
    Scans ('.' :: (w ++ rest)) (symbol .dot :: ident w :: ts) := by
  have hdigit : ∀ c ∈ (w ++ rest).head?, Numeral.isDigit c = false := by
    obtain ⟨c, cs, rfl, hc⟩ := hw.eq_cons
    rintro _ ⟨⟩
    exact (isWordStart_apart hc).2.2.2.2
  refine .cons (by decide) (by decide) ?_ le_rfl (.word hw hr h)
  rw [tokenAt?, quotedAt?_symbol (by decide), numberAt?_dot hdigit]
  rfl

end GatedRelay.Expr.Token
