import GatedRelay.Expr.Eval
import GatedRelay.Proofs.Aborts
import GatedRelay.Proofs.CharacterIndices
import Mathlib.Algebra.Order.Ring.Int

/-!
# The size of a text as an index

The size of a text is the number of its bytes, and indices count its characters. Both are the same
for ASCII texts, and for all other texts the size lies beyond the last index.
-/

namespace GatedRelay

namespace Utf8

lemma length_le_length_encode (cs : List Char) : cs.length ≤ (encode cs).length := by
  induction cs with
  | nil => exact Nat.zero_le _
  | cons c rest ih =>
    have hpos := c.utf8Size_pos
    rw [length_encode_cons, List.length_cons]
    omega

/-- The texts with as many bytes as characters are the ASCII texts. -/
lemma length_encode_eq_iff (cs : List Char) :
    (encode cs).length = cs.length ↔ ∀ c ∈ cs, c.toNat < 128 := by
  induction cs with
  | nil => simp [encode]
  | cons c rest ih =>
    have hle := length_le_length_encode rest
    have hpos := c.utf8Size_pos
    have hone : c.utf8Size = 1 ↔ c.toNat < 128 := by
      rw [Char.utf8Size_eq_one_iff, UInt32.le_iff_toNat_le, Char.toNat_val]
      exact Nat.lt_succ_iff.symm
    rw [List.forall_mem_cons, ← ih, ← hone, length_encode_cons, List.length_cons]
    omega

end Utf8

namespace Expr

open Attempt

variable {scope : Scope} {e : Term} {s : String}

/-- A term comes to a value at every step with the bindings and the world of a scope. -/
def Term.HasValue (scope : Scope) (e : Term) (v : Value) : Prop :=
  ∀ t : Scope, t.bindings = scope.bindings → t.world = scope.world → eval t e = .ok v

lemma Term.HasValue.size (he : e.HasValue scope (.string s)) :
    (Term.call "size" [e]).HasValue scope (.int (Int64.ofNat (Utf8.ofString s).length)) := by
  intro t hbindings hworld
  have hsize : Function.ofHandler? "size" = some (.builtin .size) := by decide
  have heval : eval (t.step 0) e = .ok (.string s) := he _ hbindings hworld
  rw [eval, hsize]
  dsimp only [Function.signature, Builtin.signature, Signature.plain]
  rw [evalArgs, heval]
  rfl

/-! ### Texts measured by themselves -/

/-- The character of a text at its size. -/
def charAtSize (e : Term) : Term := .method e "charAt" [.call "size" [e]]

/-- A text from its size on. -/
def restFromSize (e : Term) : Term := .method e "substring" [.call "size" [e]]

/-- A text up to its size. -/
def textToSize (e : Term) : Term := .method e "substring" [.literal (.int 0), .call "size" [e]]

/-- The size as the index that it is in a text of so many bytes. -/
def sizeIndex (s : String) : Int64 := Int64.ofNat (Utf8.ofString s).length

lemma eval_charAtSize (he : e.HasValue scope (.string s)) :
    eval scope (charAtSize e) = (Library.characterAt s (sizeIndex s)).toEval "charAt" := by
  have hargs : evalArgs (scope.step 1) [.call "size" [e]] [.int] false =
      .ok [.int (sizeIndex s)] := by
    have hsize := he.size (scope.step 1) rfl rfl
    rw [evalArgs, hsize]
    rfl
  exact eval_method_of_eval (f := .charAt) rfl (he _ rfl rfl) rfl hargs

lemma eval_restFromSize (he : e.HasValue scope (.string s)) :
    eval scope (restFromSize e) =
      (Outcome.ofRefusal (Library.slice s [.int (sizeIndex s)])).toEval "substring" := by
  have hargs : evalArgs (scope.step 1) [.call "size" [e]] [] true =
      .ok [.int (sizeIndex s)] := by
    have hsize := he.size (scope.step 1) rfl rfl
    rw [evalArgs, hsize]
    rfl
  exact eval_method_of_eval (f := .substring) rfl (he _ rfl rfl) rfl hargs

lemma eval_textToSize (he : e.HasValue scope (.string s)) :
    eval scope (textToSize e) =
      (Outcome.ofRefusal (Library.slice s [.int 0, .int (sizeIndex s)])).toEval "substring" := by
  have hargs : evalArgs (scope.step 1) [.literal (.int 0), .call "size" [e]] [] true =
      .ok [.int 0, .int (sizeIndex s)] := by
    have hsize := he.size (scope.step 1).next rfl rfl
    rw [evalArgs, evalArgs, hsize]
    rfl
  exact eval_method_of_eval (f := .substring) rfl (he _ rfl rfl) rfl hargs

/-- The three terms stay within the text, and come to nothing, nothing and the text. -/
def SizeIsEnd (scope : Scope) (e : Term) (s : String) : Prop :=
  eval scope (charAtSize e) = .ok (.string "") ∧
    eval scope (restFromSize e) = .ok (.string "") ∧
    eval scope (textToSize e) = .ok (.string s)

/-- The three terms ask for an index that is not in the text, and are refused. -/
def SizeIsBeyond (scope : Scope) (e : Term) (s : String) : Prop :=
  let size := Numeral.intString (Utf8.ofString s).length
  eval scope (charAtSize e) = fail (.refused "charAt" (.indexOutOfRange size)) ∧
    eval scope (restFromSize e) = fail (.refused "substring" (.indexOutOfRange s!"Int({size})")) ∧
    eval scope (textToSize e) = fail (.refused "substring" (.indexOutOfRange s!"Int({size})"))

lemma toInt_sizeIndex (hs : (Utf8.ofString s).length < 2 ^ 63) :
    (sizeIndex s).toInt = (Utf8.ofString s).length := Int64.toInt_ofNat_of_lt hs

lemma sizeIsEnd_of_length_eq (he : e.HasValue scope (.string s))
    (hs : (Utf8.ofString s).length < 2 ^ 63) (h : (Utf8.ofString s).length = s.length) :
    SizeIsEnd scope e s := by
  have hsize : (sizeIndex s).toInt = s.length := by rw [toInt_sizeIndex hs, h]
  have hnumber : (Value.int (sizeIndex s)).number? = some (.whole s.length) := by
    rw [Value.number?, hsize]
  have hlength : s.toList.length = s.length := String.length_toList
  have hdrop : s.toList.drop s.length = [] := List.drop_eq_nil_of_le hlength.le
  have htake : s.toList.take s.length = s.toList := List.take_of_length_le hlength.le
  refine ⟨?_, ?_, ?_⟩
  · have hchar : Library.characterAt s (sizeIndex s) = .value (.string "") := by
      simp [Library.characterAt, hsize, hlength, hdrop, Value.ofString]
    rw [eval_charAtSize he, hchar]
    rfl
  · rw [eval_restFromSize he, Library.slice_rest hnumber le_rfl, hdrop]
    rfl
  · have hwhole : Library.slice s [.int 0, .int (sizeIndex s)] = .ok (.string s) := by
      rw [Library.slice_eq_ok_iff rfl hnumber]
      refine ⟨0, s.length, rfl, rfl, Nat.zero_le _, le_rfl, ?_⟩
      rw [List.drop_zero, Nat.sub_zero, htake, Value.ofString, String.ofList_toList]
    rw [eval_textToSize he, hwhole]
    rfl

lemma sizeIsBeyond_of_length_lt (he : e.HasValue scope (.string s))
    (hs : (Utf8.ofString s).length < 2 ^ 63) (h : s.length < (Utf8.ofString s).length) :
    SizeIsBeyond scope e s := by
  have hsize := toInt_sizeIndex hs
  have hindex : Library.charIndex s.toList.length (.int (sizeIndex s)) =
      .error (.indexOutOfRange s!"Int({Numeral.intString (Utf8.ofString s).length})") := by
    rw [← hsize]
    refine if_neg ?_
    rw [String.length_toList, hsize]
    omega
  refine ⟨?_, ?_, ?_⟩
  · have hchar : Library.characterAt s (sizeIndex s) =
        .refused (.indexOutOfRange (Numeral.intString (Utf8.ofString s).length)) := by
      rw [← hsize]
      refine if_neg ?_
      rw [String.length_toList, hsize]
      omega
    rw [eval_charAtSize he, hchar]
    rfl
  · rw [eval_restFromSize he, Library.slice]
    dsimp only
    rw [hindex]
    rfl
  · have hzero : Library.charIndex s.toList.length (.int 0) = .ok 0 := by
      rw [Library.charIndex_eq_ok_iff rfl]
      exact ⟨rfl, Nat.zero_le _⟩
    rw [eval_textToSize he, Library.slice]
    dsimp only
    rw [hzero, hindex]
    rfl

/-- The size of a text is the index of its end if the text is ASCII, and else an index beyond
it. -/
theorem size_is_end_iff (he : e.HasValue scope (.string s))
    (hs : (Utf8.ofString s).length < 2 ^ 63) :
    (SizeIsEnd scope e s ↔ ∀ c ∈ s.toList, c.toNat < 128) ∧
      (SizeIsBeyond scope e s ↔ ∃ c ∈ s.toList, 128 ≤ c.toNat) := by
  have hascii := Utf8.length_encode_eq_iff s.toList
  rw [String.length_toList] at hascii
  have hle := Utf8.length_le_length_encode s.toList
  rw [String.length_toList] at hle
  have hdiffer (hend : SizeIsEnd scope e s) (hbeyond : SizeIsBeyond scope e s) : False := by
    have h := hend.1
    rw [hbeyond.1] at h
    cases h
  have hwide : (∃ c ∈ s.toList, 128 ≤ c.toNat) ↔ ¬∀ c ∈ s.toList, c.toNat < 128 := by
    simp
  by_cases h : ∀ c ∈ s.toList, c.toNat < 128
  · have hend := sizeIsEnd_of_length_eq he hs (hascii.mpr h)
    rw [hwide]
    exact ⟨iff_of_true hend h, iff_of_false (hdiffer hend) (not_not.mpr h)⟩
  · have hbeyond := sizeIsBeyond_of_length_lt he hs
      (lt_of_le_of_ne hle fun heq => h (hascii.mp heq.symm))
    rw [hwide]
    exact ⟨iff_of_false (fun hend => hdiffer hend hbeyond) h, iff_of_true hbeyond h⟩

lemma hasValue_literal (scope : Scope) (s : String) :
    (Term.literal (.string s)).HasValue scope (.string s) := fun t _ _ => by rw [eval]

theorem size_is_end_iff_ascii :
    SizeIsEnd (Scope.root (0 : Int) .null .null) (.literal (.string "az")) "az" ∧
      SizeIsBeyond (Scope.root (0 : Int) .null .null) (.literal (.string "a\u00e9")) "a\u00e9" :=
  ⟨(size_is_end_iff (hasValue_literal _ _) (by decide +kernel)).1.mpr (by simp),
    (size_is_end_iff (hasValue_literal _ _) (by decide +kernel)).2.mpr
      ⟨'\u00e9', by simp, by decide⟩⟩

/-- A letter of two bytes has no character at its size. -/
theorem no_character_at_size :
    eval (Scope.root (0 : Int) .null .null) (charAtSize (.literal (.string "\u00e9"))) =
        fail (.refused "charAt" (.indexOutOfRange "2")) ∧
      ¬SizeIsEnd (Scope.root (0 : Int) .null .null) (.literal (.string "\u00e9")) "\u00e9" := by
  have hbytes : (Utf8.ofString "\u00e9").length = 2 := by decide +kernel
  have hbeyond :
      SizeIsBeyond (Scope.root (0 : Int) .null .null) (.literal (.string "\u00e9")) "\u00e9" :=
    sizeIsBeyond_of_length_lt (hasValue_literal _ _) (by rw [hbytes]; decide)
      (by rw [hbytes]; decide)
  have htwo : Numeral.intString ((2 : Nat) : Int) = "2" := by decide +kernel
  have hchar := hbeyond.1
  rw [hbytes, htwo] at hchar
  refine ⟨hchar, fun hend => ?_⟩
  rw [hend.1] at hchar
  cases hchar

end Expr

end GatedRelay
