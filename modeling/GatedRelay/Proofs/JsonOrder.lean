import GatedRelay.Expr.Convert
import GatedRelay.Json.Parser
import GatedRelay.Proofs.Attempts
import Mathlib.Data.List.Basic

/-!
# The order of fields

Objects that are read from a text or made from a value have their fields in the order of names, each
name once. Such JSON is what it was after a way through the values of evaluation.
-/

namespace GatedRelay

@[elab_as_elim, induction_eliminator]
theorem Expr.Value.inductionOn {motive : Expr.Value → Prop}
    (null : motive .null)
    (bool : ∀ b, motive (.bool b))
    (int : ∀ i, motive (.int i))
    (uint : ∀ u, motive (.uint u))
    (double : ∀ d, motive (.double d))
    (string : ∀ s, motive (.string s))
    (bytes : ∀ bs, motive (.bytes bs))
    (list : ∀ place items, (∀ v ∈ items, motive v) → motive (.list place items))
    (map : ∀ place entries, (∀ e ∈ entries, motive e.2) → motive (.map place entries))
    (timestamp : ∀ t, motive (.timestamp t))
    (duration : ∀ d, motive (.duration d))
    (function : ∀ name target, (∀ v ∈ target, motive v) → motive (.function name target))
    (v : Expr.Value) : motive v :=
  @Expr.Value.rec motive (fun items => ∀ v ∈ items, motive v)
    (fun entries => ∀ e ∈ entries, motive e.2) (fun target => ∀ v ∈ target, motive v) (fun e => motive e.2)
    null bool int uint double string bytes list map timestamp duration function
    (List.forall_mem_nil _) (fun _ _ hv hrest => List.forall_mem_cons.mpr ⟨hv, hrest⟩)
    (List.forall_mem_nil _) (fun _ _ he hrest => List.forall_mem_cons.mpr ⟨he, hrest⟩)
    (fun _ hv => (Option.not_mem_none _ hv).elim)
    (fun _ hv _ hw => Option.mem_some.mp hw ▸ hv) (fun _ _ hv => hv) v

namespace JsonFields

/-- Each name once, in order. -/
def Sorted (fields : JsonFields) : Prop := fields.Pairwise fun f g => f.1 < g.1

lemma lt_of_not_lt_of_ne {a b : String} (h : ¬a < b) (hne : a ≠ b) : b < a := by
  by_contra hba
  exact hne (String.le_antisymm (String.not_lt.mp hba) (String.not_lt.mp h))

lemma mem_insert {name : String} {value : Json} {fields : JsonFields} {f : String × Json}
    (hf : f ∈ insert name value fields) : f = (name, value) ∨ f ∈ fields := by
  induction fields with
  | nil => exact .inl (List.mem_singleton.mp hf)
  | cons g rest ih =>
    rw [insert] at hf
    split_ifs at hf with hlt heq
    · exact List.mem_cons.mp hf
    · subst heq
      rcases List.mem_cons.mp hf with hf | hf
      · exact .inl hf
      · exact .inr (List.mem_cons_of_mem _ hf)
    · rcases List.mem_cons.mp hf with hf | hf
      · exact .inr (hf ▸ List.mem_cons_self)
      · exact (ih hf).imp_right (List.mem_cons_of_mem _)

lemma insert_sorted {fields : JsonFields} (h : Sorted fields) (name : String) (value : Json) :
    Sorted (insert name value fields) := by
  induction fields with
  | nil => exact List.pairwise_singleton _ _
  | cons g rest ih =>
    obtain ⟨hg, hrest⟩ := List.pairwise_cons.mp h
    rw [insert]
    split_ifs with hlt heq
    · refine List.pairwise_cons.mpr ⟨fun f hf => ?_, h⟩
      rcases List.mem_cons.mp hf with rfl | hf
      · exact hlt
      · exact String.lt_trans hlt (hg f hf)
    · exact List.pairwise_cons.mpr ⟨hg, hrest⟩
    · refine List.pairwise_cons.mpr ⟨fun f hf => ?_, ih hrest⟩
      rcases mem_insert hf with rfl | hf
      · exact lt_of_not_lt_of_ne hlt heq
      · exact hg f hf

lemma insert_of_lt {name : String} {fields : JsonFields} (h : ∀ f ∈ fields, name < f.1)
    (value : Json) : insert name value fields = (name, value) :: fields := by
  cases fields with
  | nil => rfl
  | cons g rest => rw [insert, if_pos (h g List.mem_cons_self)]

lemma insert_of_gt {name : String} {fields : JsonFields} (h : ∀ f ∈ fields, f.1 < name)
    (value : Json) : insert name value fields = fields ++ [(name, value)] := by
  induction fields with
  | nil => rfl
  | cons g rest ih =>
    have hg : g.1 < name := h g List.mem_cons_self
    have hne : name ≠ g.1 := fun he => String.lt_irrefl _ (he ▸ hg)
    rw [insert, if_neg (String.lt_asymm hg), if_neg hne,
      ih fun f hf => h f (List.mem_cons_of_mem _ hf)]
    rfl

lemma foldl_insert (acc : JsonFields) {fields : JsonFields} (h : Sorted (acc ++ fields)) :
    fields.foldl (fun acc f => insert f.1 f.2 acc) acc = acc ++ fields := by
  induction fields generalizing acc with
  | nil => exact (List.append_nil acc).symm
  | cons f rest ih =>
    have hacc : ∀ g ∈ acc, g.1 < f.1 :=
      fun g hg => (List.pairwise_append.mp h).2.2 g hg f List.mem_cons_self
    rw [List.foldl_cons, insert_of_gt hacc]
    have happ : acc ++ f :: rest = acc ++ [f] ++ rest := List.append_cons ..
    rw [happ] at h ⊢
    exact ih _ h

/-- The fields of a text that has them in order. -/
lemma ofList_of_sorted {fields : JsonFields} (h : Sorted fields) : ofList fields = fields :=
  foldl_insert [] h

lemma ofList_sorted (fields : List (String × Json)) : Sorted (ofList fields) :=
  List.foldlRecOn fields _ (motive := Sorted) List.Pairwise.nil
    fun _ hacc f _ => insert_sorted hacc f.1 f.2

lemma mem_of_mem_ofList {fields : List (String × Json)} {f : String × Json}
    (hf : f ∈ ofList fields) : f ∈ fields := by
  have hsub : ∀ g ∈ ofList fields, g ∈ fields :=
    List.foldlRecOn fields _ (motive := fun acc => ∀ g ∈ acc, g ∈ fields)
      (List.forall_mem_nil _) fun acc hacc g hg e he => by
        rcases mem_insert he with rfl | he
        · exact hg
        · exact hacc e he
  exact hsub f hf

end JsonFields

namespace Json

/-- All objects in a value have their fields in order. -/
inductive Ordered : Json → Prop
  | null : Ordered null
  | bool (b : Bool) : Ordered (bool b)
  | int (i : WideInt) : Ordered (int i)
  | double (d : FiniteDouble) : Ordered (double d)
  | string (s : String) : Ordered (string s)
  | array {items : List Json} : (∀ j ∈ items, Ordered j) → Ordered (array items)
  | object {fields : JsonFields} : fields.Sorted → (∀ f ∈ fields, Ordered f.2) →
      Ordered (object fields)

/-- Whole numbers and doubles. -/
inductive IsNumber : Json → Prop
  | int (i : WideInt) : IsNumber (int i)
  | double (d : FiniteDouble) : IsNumber (double d)

lemma IsNumber.ordered {j : Json} (h : j.IsNumber) : j.Ordered := by
  cases h with
  | int i => exact .int i
  | double d => exact .double d

lemma finite?_isNumber {d : Double} {j : Json} (h : finite? d = some j) : j.IsNumber := by
  unfold finite? at h
  split at h <;> cases h
  exact .double _

lemma doubleOf?_isNumber {negative : Bool} {whole fraction : List Nat} {exponent : Int} {j : Json}
    (h : doubleOf? negative whole fraction exponent = some j) : j.IsNumber := by
  unfold doubleOf? at h
  dsimp only at h
  split at h
  · cases h
  · exact finite?_isNumber h

lemma wholeNumber?_isNumber {negative : Bool} {whole : List Nat} {j : Json}
    (h : wholeNumber? negative whole = some j) : j.IsNumber := by
  unfold wholeNumber? at h
  dsimp only at h
  split_ifs at h
  · obtain ⟨i, -, rfl⟩ := Option.map_eq_some_iff.mp h
    exact .int i
  · obtain ⟨i, -, rfl⟩ := Option.map_eq_some_iff.mp h
    exact .int i
  · exact finite?_isNumber h
  · exact doubleOf?_isNumber h

/-- Whatever a reader reads has a property. -/
def Reader.Gives {α : Type} (r : Reader α) (P : α → Prop) : Prop :=
  ∀ ⦃cs : List Char⦄ ⦃a : α⦄ ⦃rest : List Char⦄, r cs = some (a, rest) → P a

lemma number_gives (negative : Bool) : Reader.Gives (number negative) IsNumber := by
  intro cs j rest h
  unfold number at h
  dsimp only at h
  split at h
  · cases h
  split at h
  · split at h
    · cases h
    split at h
    · cases h
    · obtain ⟨_, hj, he⟩ := Option.map_eq_some_iff.mp h
      cases he
      exact doubleOf?_isNumber hj
  · split at h
    · cases h
    · obtain ⟨_, hj, he⟩ := Option.map_eq_some_iff.mp h
      cases he
      exact wholeNumber?_isNumber hj
    · obtain ⟨_, hj, he⟩ := Option.map_eq_some_iff.mp h
      cases he
      exact doubleOf?_isNumber hj

section Loops

variable {item : Reader Json} {P : Json → Prop} (hitem : Reader.Gives item P)
include hitem

lemma items_gives (fuel : Nat) : Reader.Gives (items item fuel) fun js => ∀ j ∈ js, P j := by
  intro cs js rest h
  induction fuel generalizing cs js with
  | zero => cases h
  | succ fuel ih =>
    rw [items] at h
    split at h
    · cases h
    · next j rest' hj =>
      split at h
      · cases h
        exact List.forall_mem_singleton.mpr (hitem hj)
      · obtain ⟨p, hp, he⟩ := Option.map_eq_some_iff.mp h
        cases he
        exact List.forall_mem_cons.mpr ⟨hitem hj, ih hp⟩
      · cases h

lemma field_gives : Reader.Gives (field item) fun f => P f.2 := by
  intro cs f rest h
  unfold field at h
  split at h
  · split at h
    · cases h
    · split at h
      · obtain ⟨p, hp, he⟩ := Option.map_eq_some_iff.mp h
        cases he
        exact hitem hp
      · cases h
  · cases h

lemma fields_gives (fuel : Nat) :
    Reader.Gives (fields item fuel) fun fs => ∀ f ∈ fs, P f.2 := by
  intro cs fs rest h
  induction fuel generalizing cs fs with
  | zero => cases h
  | succ fuel ih =>
    rw [fields] at h
    split at h
    · cases h
    · next f rest' hf =>
      have hf : P f.2 := field_gives hitem hf
      split at h
      · cases h
        exact List.forall_mem_singleton.mpr hf
      · obtain ⟨p, hp, he⟩ := Option.map_eq_some_iff.mp h
        cases he
        exact List.forall_mem_cons.mpr ⟨hf, ih hp⟩
      · cases h

end Loops

/-- Reading puts fields in order, at every depth. -/
lemma value_gives (depth : Nat) : Reader.Gives (value depth) Ordered := by
  induction depth using Nat.strongRecOn with
  | ind depth ih =>
    intro cs j rest h
    rw [value.eq_def] at h
    split at h
    · cases h
    · split_ifs at h
      · obtain ⟨p, -, he⟩ := Option.map_eq_some_iff.mp h
        cases he
        exact .string _
      · split at h
        · cases h
        · next depth' =>
          split at h
          · cases h
            exact .array (List.forall_mem_nil _)
          · obtain ⟨p, hp, he⟩ := Option.map_eq_some_iff.mp h
            cases he
            exact .array (items_gives (ih depth' (Nat.lt_succ_self _)) _ hp)
      · split at h
        · cases h
        · next depth' =>
          split at h
          · cases h
            exact .object List.Pairwise.nil (List.forall_mem_nil _)
          · obtain ⟨p, hp, he⟩ := Option.map_eq_some_iff.mp h
            cases he
            have hfields := fields_gives (ih depth' (Nat.lt_succ_self _)) _ hp
            exact .object (JsonFields.ofList_sorted _) fun f hf =>
              hfields f (JsonFields.mem_of_mem_ofList hf)
      · exact (number_gives true h).ordered
      · exact (number_gives false h).ordered
      all_goals
        obtain ⟨p, -, he⟩ := Option.map_eq_some_iff.mp h
        cases he
      · exact .null
      · exact .bool true
      · exact .bool false

theorem parse?_ordered {cs : List Char} {j : Json} (h : parse? cs = some j) : j.Ordered := by
  unfold parse? at h
  split at h
  · cases h
  · next hj =>
    split at h <;> cases h
    exact value_gives _ hj

end Json

namespace Expr.Value

open GatedRelay.Attempt (map_eq_ok_iff)

lemma toJson_ofWideInt (i : WideInt) : (ofWideInt i).toJson = .ok (.int i) := by
  have hlower := i.lower
  have hupper := i.upper
  unfold ofWideInt
  split
  · next h =>
    rw [toJson, WideInt.ofInt64]
    congr 3
    exact Int64.toInt_ofInt_of_le hlower (by omega)
  · next h =>
    rw [toJson, WideInt.ofUInt64]
    congr 3
    simp
    omega

lemma toJsonList_ordered {vs : List Value} {js : List Json}
    (ih : ∀ v ∈ vs, ∀ j, v.toJson = .ok j → j.Ordered) (h : toJsonList vs = .ok js) :
    ∀ j ∈ js, j.Ordered := by
  induction vs generalizing js with
  | nil =>
    cases h
    exact List.forall_mem_nil _
  | cons v rest ihrest =>
    obtain ⟨hv, hrest⟩ := List.forall_mem_cons.mp ih
    rw [toJsonList] at h
    split at h
    · cases h
    · next j hj =>
      obtain ⟨js', hjs, rfl⟩ := map_eq_ok_iff.mp h
      exact List.forall_mem_cons.mpr ⟨hv j hj, ihrest hrest hjs⟩

lemma toJsonFields_ordered {entries : List (Key × Value)} {fields : JsonFields}
    (ih : ∀ e ∈ entries, ∀ j, e.2.toJson = .ok j → j.Ordered)
    (h : toJsonFields entries = .ok fields) : fields.Sorted ∧ ∀ f ∈ fields, f.2.Ordered := by
  induction entries generalizing fields with
  | nil =>
    cases h
    exact ⟨List.Pairwise.nil, List.forall_mem_nil _⟩
  | cons e rest ihrest =>
    obtain ⟨he, hrest⟩ := List.forall_mem_cons.mp ih
    obtain ⟨k, v⟩ := e
    cases k with
    | string k =>
      rw [toJsonFields] at h
      split at h
      · cases h
      · next j hj =>
        obtain ⟨fields', hfields, rfl⟩ := map_eq_ok_iff.mp h
        obtain ⟨hsorted, hvalues⟩ := ihrest hrest hfields
        refine ⟨JsonFields.insert_sorted hsorted k j, fun f hf => ?_⟩
        rcases JsonFields.mem_insert hf with rfl | hf
        · exact he j hj
        · exact hvalues f hf
    | int i | uint u | bool b => cases h

/-- Converting puts fields in order, at every depth. -/
theorem toJson_ordered {v : Value} {j : Json} (h : v.toJson = .ok j) : j.Ordered := by
  induction v generalizing j with
  | null =>
    cases h
    exact .null
  | bool b =>
    cases h
    exact .bool b
  | int i =>
    cases h
    exact .int _
  | uint u =>
    cases h
    exact .int _
  | double d =>
    rw [toJson] at h
    split at h <;> cases h
    exact .double _
  | string s =>
    cases h
    exact .string s
  | bytes bs =>
    cases h
    refine .array fun j hj => ?_
    obtain ⟨b, -, rfl⟩ := List.mem_map.mp hj
    exact .int _
  | list place items ih =>
    obtain ⟨js, hjs, rfl⟩ := map_eq_ok_iff.mp h
    exact .array (toJsonList_ordered (fun v hv j => ih v hv) hjs)
  | map place entries ih =>
    obtain ⟨fields, hfields, rfl⟩ := map_eq_ok_iff.mp h
    obtain ⟨hsorted, hvalues⟩ := toJsonFields_ordered (fun e he j => ih e he) hfields
    exact .object hsorted hvalues
  | timestamp t =>
    cases h
    exact .string _
  | duration d =>
    cases h
    exact .string _
  | function name target ih => cases h

lemma toJsonList_ofJsonList {js : List Json} (h : ∀ j ∈ js, (ofJson j).toJson = .ok j) :
    toJsonList (ofJsonList js) = .ok js := by
  induction js with
  | nil => rfl
  | cons j rest ih =>
    obtain ⟨hj, hrest⟩ := List.forall_mem_cons.mp h
    rw [ofJsonList, toJsonList, hj]
    dsimp only
    rw [ih hrest]
    rfl

lemma toJsonFields_ofJsonFields {fields : JsonFields} (hs : fields.Sorted)
    (h : ∀ f ∈ fields, (ofJson f.2).toJson = .ok f.2) :
    toJsonFields (ofJsonFields fields) = .ok fields := by
  induction fields with
  | nil => rfl
  | cons f rest ih =>
    obtain ⟨hf, hrest⟩ := List.forall_mem_cons.mp h
    obtain ⟨hlt, hsrest⟩ := List.pairwise_cons.mp hs
    obtain ⟨k, j⟩ := f
    rw [ofJsonFields, toJsonFields, hf]
    dsimp only
    rw [ih hsrest hrest, Except.map, JsonFields.insert_of_lt hlt]

/-- Ordered JSON is what it was once it has become a value and JSON again. -/
theorem toJson_ofJson {j : Json} (h : j.Ordered) : (ofJson j).toJson = .ok j := by
  induction h with
  | null => rfl
  | bool b => rfl
  | int i => exact toJson_ofWideInt i
  | double d =>
    rw [ofJson, toJson, dif_pos d.property]
  | string s => rfl
  | array hitems ih =>
    rw [ofJson, toJson, toJsonList_ofJsonList ih]
    rfl
  | object hs hfields ih =>
    rw [ofJson, toJson, toJsonFields_ofJsonFields hs ih]
    rfl

end Expr.Value

end GatedRelay
