import GatedRelay.Proofs.JsonOrder

/-!
# Maps in another order

Nothing says in which order the entries of a map come. JSON that is made of a value does not depend
on it, so request data comes back from evaluation as it was.
-/

namespace GatedRelay

lemma JsonFields.insert_comm_of_lt {a b : String} (hab : a < b) (x y : Json)
    (fields : JsonFields) : insert a x (insert b y fields) = insert b y (insert a x fields) := by
  have hba : ¬b < a := String.lt_asymm hab
  have hne : b ≠ a := fun h => String.lt_irrefl _ (h ▸ hab)
  induction fields with
  | nil => simp [insert, hab, hba, hne]
  | cons f rest ih =>
    by_cases hb : b < f.1
    · have ha : a < f.1 := String.lt_trans hab hb
      simp [insert, ha, hb, hab, hba, hne]
    by_cases hbeq : b = f.1
    · subst hbeq
      simp [insert, hab, hba, hne]
    by_cases ha : a < f.1
    · simp [insert, ha, hb, hbeq, hba, hne]
    by_cases haeq : a = f.1
    · subst haeq
      simp [insert, hba, hne]
    · simp [insert, ha, haeq, hb, hbeq, ih]

lemma JsonFields.insert_comm {a b : String} (hne : a ≠ b) (x y : Json) (fields : JsonFields) :
    insert a x (insert b y fields) = insert b y (insert a x fields) := by
  by_cases hab : a < b
  · exact insert_comm_of_lt hab x y fields
  · exact (insert_comm_of_lt (lt_of_not_lt_of_ne hab hne) y x fields).symm

namespace Expr.Value

open GatedRelay.Attempt (map_eq_ok_iff)

/-- The same value with the entries of any of its maps in another order. -/
inductive Reordered : Value → Value → Prop
  | refl (v : Value) : Reordered v v
  | trans {u v w : Value} : Reordered u v → Reordered v w → Reordered u w
  | entries (place : Option Place) {es es' : Entries} : (es.map Prod.fst).Nodup → es.Perm es' →
      Reordered (map place es) (map place es')
  | entry (place : Option Place) (before after : Entries) (k : Key) {v w : Value} :
      Reordered v w →
      Reordered (map place (before ++ (k, v) :: after)) (map place (before ++ (k, w) :: after))
  | item (place : Option Place) (before after : List Value) {v w : Value} : Reordered v w →
      Reordered (list place (before ++ v :: after)) (list place (before ++ w :: after))
  | target (name : String) {v w : Value} : Reordered v w →
      Reordered (function name (some v)) (function name (some w))

/-! ### Lists and maps -/

lemma toJsonList_cons_eq_ok_iff {v : Value} {rest : List Value} {js : List Json} :
    toJsonList (v :: rest) = .ok js ↔
      ∃ j js', v.toJson = .ok j ∧ toJsonList rest = .ok js' ∧ j :: js' = js := by
  rw [toJsonList]
  cases v.toJson with
  | error e => simp
  | ok j => simp [map_eq_ok_iff]

lemma toJsonFields_cons_eq_ok_iff {k : Key} {v : Value} {rest : Entries} {fields : JsonFields} :
    toJsonFields ((k, v) :: rest) = .ok fields ↔
      ∃ name j fields', k = .string name ∧ v.toJson = .ok j ∧ toJsonFields rest = .ok fields' ∧
        JsonFields.insert name j fields' = fields := by
  cases k with
  | string name =>
    rw [toJsonFields]
    cases v.toJson with
    | error e => simp
    | ok j => simp [map_eq_ok_iff]
  | int i | uint u | bool b => simp [toJsonFields]

lemma toJsonFields_swap {e e' : Key × Value} (hne : e.1 ≠ e'.1) {rest : Entries}
    {fields : JsonFields} (h : toJsonFields (e :: e' :: rest) = .ok fields) :
    toJsonFields (e' :: e :: rest) = .ok fields := by
  obtain ⟨k, v⟩ := e
  obtain ⟨k', v'⟩ := e'
  obtain ⟨name, j, fields', rfl, hj, hrest, rfl⟩ := toJsonFields_cons_eq_ok_iff.mp h
  obtain ⟨name', j', fields'', rfl, hj', hrest', rfl⟩ := toJsonFields_cons_eq_ok_iff.mp hrest
  have hnames : name ≠ name' := fun he => hne (congrArg Key.string he)
  rw [JsonFields.insert_comm hnames]
  exact toJsonFields_cons_eq_ok_iff.mpr ⟨name', j', _, rfl, hj',
    toJsonFields_cons_eq_ok_iff.mpr ⟨name, j, _, rfl, hj, hrest', rfl⟩, rfl⟩

/-- The fields of a map whose keys differ do not depend on the order of its entries. -/
lemma toJsonFields_of_perm {es es' : Entries} (hperm : es.Perm es')
    (hkeys : (es.map Prod.fst).Nodup) {fields : JsonFields} (h : toJsonFields es = .ok fields) :
    toJsonFields es' = .ok fields := by
  induction hperm generalizing fields with
  | nil => exact h
  | cons e hperm ih =>
    obtain ⟨k, v⟩ := e
    obtain ⟨name, j, fields', hk, hj, hrest, heq⟩ := toJsonFields_cons_eq_ok_iff.mp h
    exact toJsonFields_cons_eq_ok_iff.mpr
      ⟨name, j, fields', hk, hj, ih (List.nodup_cons.mp hkeys).2 hrest, heq⟩
  | swap e e' rest =>
    have hne : e'.1 ≠ e.1 := fun he => (List.nodup_cons.mp hkeys).1 (he ▸ List.mem_cons_self)
    exact toJsonFields_swap hne h
  | trans hfirst hsecond ihfirst ihsecond =>
    exact ihsecond ((hfirst.map Prod.fst).nodup_iff.mp hkeys) (ihfirst hkeys h)

lemma toJsonList_of_item {v w : Value} (hvw : ∀ j, v.toJson = .ok j → w.toJson = .ok j)
    (before after : List Value) {js : List Json}
    (h : toJsonList (before ++ v :: after) = .ok js) :
    toJsonList (before ++ w :: after) = .ok js := by
  induction before generalizing js with
  | nil =>
    obtain ⟨j, js', hj, hrest, heq⟩ := toJsonList_cons_eq_ok_iff.mp h
    exact toJsonList_cons_eq_ok_iff.mpr ⟨j, js', hvw j hj, hrest, heq⟩
  | cons u before ih =>
    obtain ⟨j, js', hj, hrest, heq⟩ := toJsonList_cons_eq_ok_iff.mp h
    exact toJsonList_cons_eq_ok_iff.mpr ⟨j, js', hj, ih hrest, heq⟩

lemma toJsonFields_of_entry {v w : Value} (hvw : ∀ j, v.toJson = .ok j → w.toJson = .ok j)
    (before after : Entries) (k : Key) {fields : JsonFields}
    (h : toJsonFields (before ++ (k, v) :: after) = .ok fields) :
    toJsonFields (before ++ (k, w) :: after) = .ok fields := by
  induction before generalizing fields with
  | nil =>
    obtain ⟨name, j, fields', hk, hj, hrest, heq⟩ := toJsonFields_cons_eq_ok_iff.mp h
    exact toJsonFields_cons_eq_ok_iff.mpr ⟨name, j, fields', hk, hvw j hj, hrest, heq⟩
  | cons e before ih =>
    obtain ⟨name, j, fields', hk, hj, hrest, heq⟩ := toJsonFields_cons_eq_ok_iff.mp h
    exact toJsonFields_cons_eq_ok_iff.mpr ⟨name, j, fields', hk, hj, ih hrest, heq⟩

/-! ### Values -/

lemma Reordered.toJson_eq_ok {v w : Value} (h : Reordered v w) {j : Json}
    (hj : v.toJson = .ok j) : w.toJson = .ok j := by
  induction h generalizing j with
  | refl v => exact hj
  | trans hfirst hsecond ihfirst ihsecond => exact ihsecond (ihfirst hj)
  | entries place hkeys hperm =>
    obtain ⟨fields, hfields, rfl⟩ := map_eq_ok_iff.mp hj
    exact map_eq_ok_iff.mpr ⟨fields, toJsonFields_of_perm hperm hkeys hfields, rfl⟩
  | entry place before after k hvw ih =>
    obtain ⟨fields, hfields, rfl⟩ := map_eq_ok_iff.mp hj
    have hsame := toJsonFields_of_entry (fun _ => ih) before after k hfields
    exact map_eq_ok_iff.mpr ⟨fields, hsame, rfl⟩
  | item place before after hvw ih =>
    obtain ⟨js, hjs, rfl⟩ := map_eq_ok_iff.mp hj
    have hsame := toJsonList_of_item (fun _ => ih) before after hjs
    exact map_eq_ok_iff.mpr ⟨js, hsame, rfl⟩
  | target name hvw ih => cases hj

/-- JSON comes back from the values of evaluation as it was, in whatever order its maps are kept. -/
theorem toJson_reordered_ofJson {j : Json} (hj : j.Ordered) {v : Value}
    (hv : Reordered (ofJson j) v) : v.toJson = .ok j :=
  hv.toJson_eq_ok (toJson_ofJson hj)

theorem toJson_reordered_ofJson_nested :
    let inner := Json.object [("a", .int (.ofByte 1)), ("b", .null)]
    let j := Json.array [.bool true, inner]
    let v := list none [bool true, map none [(.string "b", null), (.string "a", int 1)]]
    j.Ordered ∧ Reordered (ofJson j) v ∧ v.toJson = .ok j := by
  intro inner j v
  have hab : "a" < "b" := by decide
  have hsorted : JsonFields.Sorted [("a", .int (.ofByte 1)), ("b", .null)] :=
    List.pairwise_pair.mpr hab
  have hinner : inner.Ordered := by
    refine .object hsorted (List.forall_mem_cons.mpr ⟨.int _, List.forall_mem_singleton.mpr ?_⟩)
    exact .null
  have hj : j.Ordered :=
    .array (List.forall_mem_cons.mpr ⟨.bool true, List.forall_mem_singleton.mpr hinner⟩)
  have hv : Reordered (ofJson j) v :=
    .item none [bool true] [] (.entries none (by decide) (List.Perm.swap _ _ _))
  exact ⟨hj, hv, toJson_reordered_ofJson hj hv⟩

end Expr.Value

end GatedRelay
