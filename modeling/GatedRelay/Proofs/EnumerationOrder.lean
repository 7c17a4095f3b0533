import GatedRelay.Proofs.Reordering
import Mathlib.Data.List.Nodup

/-!
# The order in which maps are enumerated

The entries of a map come in any order, and nothing that is written of it shows which one it was: a
text has them sorted by their keys, which are in a total order, and JSON has the fields of an object
at the places of their names.
-/

namespace GatedRelay.Expr

/-! ### Keys -/

namespace Key

lemma int_le_iff {x y : Int64} : (int x).le (int y) = true ↔ x ≤ y := decide_eq_true_iff

lemma uint_le_iff {x y : UInt64} : (uint x).le (uint y) = true ↔ x ≤ y := decide_eq_true_iff

lemma bool_le_iff {x y : Bool} : (bool x).le (bool y) = true ↔ (x = true → y = true) := by
  cases x <;> simp [le]

lemma string_le_iff {x y : String} : (string x).le (string y) = true ↔ x ≤ y := by
  rw [le, Bool.not_eq_true', decide_eq_false_iff_not, String.not_lt]

lemma le_total (a b : Key) : a.le b = true ∨ b.le a = true := by
  cases a <;> cases b
  case int.int x y => exact (Int64.le_total x y).imp int_le_iff.mpr int_le_iff.mpr
  case uint.uint x y => exact (UInt64.le_total x y).imp uint_le_iff.mpr uint_le_iff.mpr
  case bool.bool x y => cases x <;> simp [bool_le_iff]
  case string.string x y => exact (String.le_total x y).imp string_le_iff.mpr string_le_iff.mpr
  all_goals simp [le, rank]

lemma le_antisymm {a b : Key} (hab : a.le b = true) (hba : b.le a = true) : a = b := by
  cases a <;> cases b
  case int.int =>
    exact congrArg int (Int64.le_antisymm (int_le_iff.mp hab) (int_le_iff.mp hba))
  case uint.uint =>
    exact congrArg uint (UInt64.le_antisymm (uint_le_iff.mp hab) (uint_le_iff.mp hba))
  case bool.bool =>
    exact congrArg bool (Bool.eq_iff_iff.mpr ⟨bool_le_iff.mp hab, bool_le_iff.mp hba⟩)
  case string.string =>
    exact congrArg string (String.le_antisymm (string_le_iff.mp hab) (string_le_iff.mp hba))
  all_goals simp [le, rank] at hab hba

lemma le_trans {a b c : Key} (hab : a.le b = true) (hbc : b.le c = true) : a.le c = true := by
  cases a <;> cases b <;> cases c
  case int.int.int =>
    exact int_le_iff.mpr (Int64.le_trans (int_le_iff.mp hab) (int_le_iff.mp hbc))
  case uint.uint.uint =>
    exact uint_le_iff.mpr (UInt64.le_trans (uint_le_iff.mp hab) (uint_le_iff.mp hbc))
  case bool.bool.bool =>
    exact bool_le_iff.mpr fun h => bool_le_iff.mp hbc (bool_le_iff.mp hab h)
  case string.string.string =>
    exact string_le_iff.mpr (String.le_trans (string_le_iff.mp hab) (string_le_iff.mp hbc))
  -- Keys of different kinds are in the order of their kinds.
  all_goals simp [le, rank] at hab hbc ⊢

/-- Entries whose keys differ are sorted in one way only. -/
lemma mergeSort_eq_of_perm {α : Type} {es es' : List (Key × α)} (hperm : es.Perm es')
    (hkeys : (es.map Prod.fst).Nodup) :
    es.mergeSort (fun a b => a.1.le b.1) = es'.mergeSort fun a b => a.1.le b.1 := by
  have hsorted (l : List (Key × α)) :
      (l.mergeSort fun a b => a.1.le b.1).Pairwise fun a b => a.1.le b.1 = true := by
    apply List.pairwise_mergeSort
    · exact fun a b c => le_trans
    · exact fun a b => Bool.or_eq_true_iff.mpr (le_total a.1 b.1)
  refine List.Perm.eq_of_pairwise (fun a b ha hb hab hba => ?_) (hsorted es) (hsorted es') ?_
  · have ha' : a ∈ es := (List.mergeSort_perm es _).mem_iff.mp ha
    have hb' : b ∈ es := hperm.mem_iff.mpr ((List.mergeSort_perm es' _).mem_iff.mp hb)
    exact List.inj_on_of_nodup_map hkeys ha' hb' (le_antisymm hab hba)
  · exact (List.mergeSort_perm es _).trans (hperm.trans (List.mergeSort_perm es' _).symm)

end Key

namespace Value

lemma Reordered.symm {v w : Value} (h : Reordered v w) : Reordered w v := by
  induction h with
  | refl v => exact .refl v
  | trans hfirst hsecond ihfirst ihsecond => exact ihsecond.trans ihfirst
  | entries place hkeys hperm =>
    exact .entries place ((hperm.map Prod.fst).nodup_iff.mp hkeys) hperm.symm
  | entry place before after k hvw ih => exact .entry place before after k ih
  | item place before after hvw ih => exact .item place before after ih
  | target name hvw ih => exact .target name ih

/-! ### Texts -/

lemma displayList_eq_map (items : List Value) : displayList items = items.map display := by
  induction items with
  | nil => rfl
  | cons v rest ih => rw [displayList, ih, List.map_cons]

/-- The text of an entry with its key. -/
def displayEntry (e : Key × Value) : Key × List Char :=
  (e.1, e.1.text ++ [':', ' '] ++ e.2.display)

lemma displayEntries_eq_map (es : Entries) : displayEntries es = es.map displayEntry := by
  induction es with
  | nil => rfl
  | cons e rest ih =>
    rw [displayEntries, ih, List.map_cons]
    rfl

lemma Reordered.display_eq {v w : Value} (h : Reordered v w) : v.display = w.display := by
  induction h with
  | refl v => rfl
  | trans hfirst hsecond ihfirst ihsecond => exact ihfirst.trans ihsecond
  | @entries place es es' hkeys hperm =>
    have hkeys' : ((es.map displayEntry).map Prod.fst).Nodup := by
      rwa [List.map_map]
    have hsorted := Key.mergeSort_eq_of_perm (hperm.map displayEntry) hkeys'
    rw [display, display, displayEntries_eq_map, displayEntries_eq_map, hsorted]
  | @entry place before after k v w hvw ih =>
    have hentry : displayEntry (k, v) = displayEntry (k, w) := by
      rw [displayEntry, ih]
      rfl
    rw [display, display, displayEntries_eq_map, displayEntries_eq_map, List.map_append,
      List.map_append, List.map_cons, List.map_cons, hentry]
  | item place before after hvw ih =>
    rw [display, display, displayList_eq_map, displayList_eq_map, List.map_append, List.map_append,
      List.map_cons, List.map_cons, ih]
  | target name hvw ih => rw [display, display]

/-! ### Texts and JSON -/

lemma exists_error_iff {ε α : Type} {x : Except ε α} : (∃ e, x = .error e) ↔ ∀ a, x ≠ .ok a := by
  cases x <;> simp

lemma Reordered.toJson_eq_ok_iff {v w : Value} (h : Reordered v w) (j : Json) :
    v.toJson = .ok j ↔ w.toJson = .ok j :=
  ⟨h.toJson_eq_ok, h.symm.toJson_eq_ok⟩

/-- A value has one text and one JSON, if it has JSON at all, in whatever order its maps are
enumerated. -/
theorem written_of_reordered {u v w : Value} (hv : Reordered u v) (hw : Reordered u w) :
    v.display = w.display ∧ ((∃ e, v.toJson = .error e) ↔ ∃ e, w.toJson = .error e) ∧
      ∀ j k, v.toJson = .ok j → w.toJson = .ok k → j.bytes = k.bytes := by
  have hvw : Reordered v w := hv.symm.trans hw
  refine ⟨hvw.display_eq, ?_, fun j k hj hk => ?_⟩
  · rw [exists_error_iff, exists_error_iff]
    exact forall_congr' fun j => not_congr (hvw.toJson_eq_ok_iff j)
  · rw [(hvw.toJson_eq_ok_iff j).mp hj] at hk
    rw [Except.ok.inj hk]

theorem written_of_reordered_nested :
    let inner := map none [(.string "y", null), (.string "x", bool true), (.string "k", int 1)]
    let inner' := map none [(.string "k", int 1), (.string "y", null), (.string "x", bool true)]
    let u := map none [(.string "b", bool true), (.string "a", inner)]
    let v := map none [(.string "a", inner), (.string "b", bool true)]
    let w := map none [(.string "b", bool true), (.string "a", inner')]
    Reordered u v ∧ Reordered u w ∧
      v.display = w.display ∧ ((∃ e, v.toJson = .error e) ↔ ∃ e, w.toJson = .error e) ∧
        ∀ j k, v.toJson = .ok j → w.toJson = .ok k → j.bytes = k.bytes := by
  intro inner inner' u v w
  have hv : Reordered u v := .entries none (by decide) (.swap _ _ _)
  have hinner : Reordered inner inner' :=
    .entries none (by decide) ((List.Perm.cons _ (.swap _ _ _)).trans (.swap _ _ _))
  have hw : Reordered u w := .entry none [(.string "b", bool true)] [] (.string "a") hinner
  exact ⟨hv, hw, written_of_reordered hv hw⟩

end Value

end GatedRelay.Expr
