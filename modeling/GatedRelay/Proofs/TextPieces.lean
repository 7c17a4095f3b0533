import GatedRelay.Expr.Library
import GatedRelay.Proofs.Occurrences

/-!
# Cutting, joining and replacing

A text is cut at the occurrences of a needle from the left, each of which starts after the end of
the one before. The pieces hold the needle no more, and with something between them again they are
the text with that in the place of the needle.
-/

namespace GatedRelay.Text

variable {needle text before after : List Char}

lemma breakOn_eq_none_iff : breakOn needle text = none ↔ ¬needle <:+: text := by
  rw [breakOn, Option.map_eq_none_iff, indexOf?_eq_none_iff]

/-- A text is broken at the first occurrence of the needle. -/
lemma isLeast_of_breakOn (h : breakOn needle text = some (before, after)) :
    text = before ++ (needle ++ after) ∧
      IsLeast {j | OccursAt needle text j} before.length := by
  obtain ⟨i, hi, heq⟩ := Option.map_eq_some_iff.mp h
  obtain ⟨rfl, rfl⟩ := Prod.mk.inj heq
  rw [indexOf?_eq_some_iff] at hi
  have hlength : (text.take i).length = i := List.length_take_of_le hi.1.1
  rw [hlength]
  exact ⟨hi.1.eq_append, hi⟩

/-- What stands before the first occurrence holds none. -/
lemma not_infix_before (hn : needle ≠ [])
    (h : IsLeast {j | OccursAt needle (before ++ (needle ++ after)) j} before.length) :
    ¬needle <:+: before := by
  intro hoccurs
  obtain ⟨i, hi⟩ := exists_occursAt_iff.mpr hoccurs
  have hearly : OccursAt needle (before ++ (needle ++ after)) i := by
    have happend : OccursAt needle (before.take i ++
        (needle ++ (before.drop (i + needle.length) ++ (needle ++ after)))) (before.take i).length :=
      occursAt_append _ _
    rw [List.length_take_of_le hi.1, ← List.append_assoc needle, ← List.append_assoc,
      ← hi.eq_append] at happend
    exact happend
  have hle : before.length ≤ i := h.2 hearly
  have hlength := hi.add_length_le
  have hpos := List.length_pos_iff.mpr hn
  omega

/-! ### Pieces -/

section Pieces

variable (hn : needle ≠ [])

lemma splitOnNonempty_ne_nil (text : List Char) : splitOnNonempty needle hn text ≠ [] := by
  rw [splitOnNonempty]
  split <;> simp

lemma join_splitOnNonempty (text : List Char) :
    join needle (splitOnNonempty needle hn text) = text := by
  fun_induction splitOnNonempty needle hn text with
  | case1 text => exact List.intercalate_singleton
  | case2 text before after h ih =>
    rw [join, List.intercalate_cons_of_ne_nil (splitOnNonempty_ne_nil hn after), ← join, ih,
      List.append_assoc, ← (isLeast_of_breakOn h).1]

lemma not_infix_of_mem_splitOnNonempty {piece : List Char}
    (h : piece ∈ splitOnNonempty needle hn text) : ¬needle <:+: piece := by
  fun_induction splitOnNonempty needle hn text with
  | case1 text hbreak =>
    rw [List.mem_singleton.mp h]
    exact breakOn_eq_none_iff.mp hbreak
  | case2 text before after hbreak ih =>
    obtain ⟨rfl, hleast⟩ := isLeast_of_breakOn hbreak
    rcases List.mem_cons.mp h with rfl | h
    · exact not_infix_before hn hleast
    · exact ih h

/-- With the empty needle each character is a piece of its own, and so is nothing at both ends. -/
lemma join_characters (separator text : List Char) :
    join separator ([] :: text.map (fun c => [c]) ++ [[]]) =
      separator ++ text.flatMap fun c => c :: separator := by
  have htail : join separator (text.map (fun c => [c]) ++ [[]]) =
      text.flatMap fun c => c :: separator := by
    induction text with
    | nil => rfl
    | cons c rest ih =>
      rw [List.map_cons, List.cons_append, join, List.intercalate_cons_of_ne_nil (by simp), ← join,
        ih, List.flatMap_cons, List.singleton_append]
  rw [List.cons_append, join, List.intercalate_cons_of_ne_nil (by simp), ← join, htail,
    List.nil_append]

end Pieces

theorem join_split (needle text : List Char) : join needle (split needle text) = text := by
  unfold split
  by_cases hn : needle = []
  · rw [dif_pos hn, join_characters, hn]
    simp
  · rw [dif_neg hn, join_splitOnNonempty]

theorem not_infix_of_mem_split {piece : List Char} (hn : needle ≠ [])
    (h : piece ∈ split needle text) : ¬needle <:+: piece := by
  rw [split, dif_neg hn] at h
  exact not_infix_of_mem_splitOnNonempty hn h

/-! ### Replacing -/

section Replacing

variable {replacement : List Char}

lemma replaceAfter_eq_drop (passed : Nat) (text : List Char) :
    replaceAfter needle replacement passed text =
      replaceAfter needle replacement 0 (text.drop passed) := by
  induction text generalizing passed with
  | nil => simp [replaceAfter]
  | cons c rest ih =>
    cases passed with
    | zero => rfl
    | succ passed => rw [replaceAfter, ih, List.drop_succ_cons]

lemma replaceAfter_of_prefix (hn : needle ≠ []) (after : List Char) :
    replaceAfter needle replacement 0 (needle ++ after) =
      replacement ++ replaceAfter needle replacement 0 after := by
  cases needle with
  | nil => exact absurd rfl hn
  | cons c rest =>
    have hprefix : (c :: rest).isPrefixOf (c :: (rest ++ after)) = true :=
      List.isPrefixOf_iff_prefix.mpr (List.prefix_append _ _)
    rw [List.cons_append, replaceAfter, if_pos hprefix, replaceAfter_eq_drop, List.length_cons,
      Nat.add_sub_cancel, List.drop_left]

lemma replaceAfter_cons {c : Char} {rest : List Char} (h : ¬needle <+: c :: rest) :
    replaceAfter needle replacement 0 (c :: rest) =
      c :: replaceAfter needle replacement 0 rest := by
  rw [replaceAfter, if_neg fun hp => h (List.isPrefixOf_iff_prefix.mp hp)]

lemma replaceAfter_of_absent (h : ¬needle <:+: text) :
    replaceAfter needle replacement 0 text = text := by
  induction text with
  | nil => rw [replaceAfter]
  | cons c rest ih =>
    rw [List.infix_cons_iff, not_or] at h
    rw [replaceAfter_cons h.1, ih h.2]

/-- Up to the first occurrence nothing is replaced. -/
lemma replaceAfter_of_isLeast (hn : needle ≠ [])
    (h : IsLeast {j | OccursAt needle (before ++ (needle ++ after)) j} before.length) :
    replaceAfter needle replacement 0 (before ++ (needle ++ after)) =
      before ++ (replacement ++ replaceAfter needle replacement 0 after) := by
  induction before with
  | nil => exact replaceAfter_of_prefix hn after
  | cons c rest ih =>
    rw [List.cons_append] at h ⊢
    have hhead : ¬needle <+: c :: (rest ++ (needle ++ after)) := by
      intro hprefix
      have hle : (c :: rest).length ≤ 0 := h.2 (occursAt_zero_iff.mpr hprefix)
      simp at hle
    rw [replaceAfter_cons hhead, ih ((isLeast_occursAt_cons_succ_iff hhead).mp h),
      List.cons_append]

lemma replaceAfter_eq_join (hn : needle ≠ []) (text : List Char) :
    replaceAfter needle replacement 0 text =
      join replacement (splitOnNonempty needle hn text) := by
  fun_induction splitOnNonempty needle hn text with
  | case1 text h =>
    rw [replaceAfter_of_absent (breakOn_eq_none_iff.mp h)]
    exact List.intercalate_singleton.symm
  | case2 text before after h ih =>
    obtain ⟨rfl, hleast⟩ := isLeast_of_breakOn h
    rw [replaceAfter_of_isLeast hn hleast, ih, join, join,
      List.intercalate_cons_of_ne_nil (splitOnNonempty_ne_nil hn after), List.append_assoc]

end Replacing

theorem replace_eq_join_split (needle replacement text : List Char) :
    replace needle replacement text = join replacement (split needle text) := by
  unfold replace split
  by_cases hn : needle = []
  · rw [if_pos hn, dif_pos hn, join_characters]
  · rw [if_neg hn, dif_neg hn, replaceAfter_eq_join hn]

/-- Occurrences do not overlap, and what stands in their place is not looked at again. -/
example : replace ['a', 'a'] ['b', 'a'] ['a', 'a', 'a'] = ['b', 'a', 'a'] := by decide

end GatedRelay.Text

namespace GatedRelay.Expr

lemma texts_map_string (parts : List String) :
    Library.texts (parts.map .string) = .ok (parts.map String.toList) := by
  induction parts with
  | nil => rfl
  | cons part rest ih => rw [List.map_cons, Library.texts, ih, List.map_cons, Except.map]

lemma apply_join (now : Moment) (place : Option Place) (parts : List String) (separator : String) :
    (Function.library .join).apply now [.list place (parts.map .string), .string separator] =
      .ok (.ofString (Text.join separator.toList (parts.map String.toList))) := by
  have happly : (Function.library .join).apply now
      [.list place (parts.map .string), .string separator] =
      (Outcome.ofRefusal (Library.joinList (parts.map .string) [.string separator])).toEval
        "join" := rfl
  rw [happly, Library.joinList, texts_map_string]
  rfl

lemma apply_split (now : Moment) (s p : String) :
    (Function.library .split).apply now [.string s, .string p] =
      .ok (.list none (((Text.split p.toList s.toList).map String.ofList).map .string)) := by
  rw [List.map_map]
  rfl

/-- A text that is cut and joined again with the same separator is the text, with another one it is
the text in which that replaces the first, and no piece holds the separator that it was cut at. -/
theorem pieces_of_text (now : Moment) (s p q : String) :
    ∃ parts : List String,
      (Function.library .split).apply now [.string s, .string p] =
        .ok (.list none (parts.map .string)) ∧
      (Function.library .join).apply now [.list none (parts.map .string), .string p] =
        .ok (.string s) ∧
      (∃ t, (Function.library .replace).apply now [.string s, .string p, .string q] =
          .ok (.string t) ∧
        (Function.library .join).apply now [.list none (parts.map .string), .string q] =
          .ok (.string t)) ∧
      (p ≠ "" → ∀ part ∈ parts, ¬p.toList <:+: part.toList) := by
  have hparts : ((Text.split p.toList s.toList).map String.ofList).map String.toList =
      Text.split p.toList s.toList := by
    simp [List.map_map, Function.comp_def]
  refine ⟨(Text.split p.toList s.toList).map String.ofList, apply_split now s p, ?_, ?_, ?_⟩
  · rw [apply_join, hparts, Text.join_split, Value.ofString, String.ofList_toList]
  · refine ⟨_, rfl, ?_⟩
    rw [apply_join, hparts, Text.replace_eq_join_split, Value.ofString]
  · intro hp part hpart
    obtain ⟨piece, hpiece, rfl⟩ := List.mem_map.mp hpart
    rw [String.toList_ofList]
    exact Text.not_infix_of_mem_split (by simpa using hp) hpiece

end GatedRelay.Expr
