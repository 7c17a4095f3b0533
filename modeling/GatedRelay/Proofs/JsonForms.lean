import GatedRelay.Proofs.ObjectTexts
import GatedRelay.Proofs.Reordering

/-!
# What JSON keeps of a value

A value becomes JSON if nothing within it is one that JSON has no counterpart for. It comes back in
the form that JSON gives it, with nothing else changed at any depth.
-/

namespace GatedRelay.Expr.Value

open GatedRelay.Attempt (map_eq_ok_iff)

/-- Lists and maps. -/
def isContainer : Value → Bool
  | list _ _ => true
  | map _ _ => true
  | _ => false

/-! ### Values without a counterpart -/

/-- A value and what lists and maps hold within it, at every depth. -/
inductive Within : Value → Value → Prop
  | self (v : Value) : Within v v
  | item {u v : Value} {place : Option Place} {items : List Value} : v ∈ items → Within u v →
      Within u (list place items)
  | entry {u : Value} {place : Option Place} {entries : Entries} {e : Key × Value} : e ∈ entries →
      Within u e.2 → Within u (map place entries)

/-- What JSON has no counterpart for, whatever it holds. -/
inductive Unwritable : Value → Prop
  | key {place : Option Place} {entries : Entries} {e : Key × Value} : e ∈ entries →
      (∀ name, e.1 ≠ .string name) → Unwritable (map place entries)
  | double {d : Double} : d.isFinite = false → Unwritable (double d)
  | function (name : String) (target : Option Value) : Unwritable (function name target)

/-- Nothing within a value is without a counterpart. -/
def Writable (v : Value) : Prop := ∀ u, Within u v → ¬Unwritable u

lemma writable_list_iff {place : Option Place} {items : List Value} :
    Writable (list place items) ↔ ∀ v ∈ items, Writable v := by
  constructor
  · intro h v hv u hu
    exact h u (.item hv hu)
  · rintro h u (_ | ⟨hv, hu⟩)
    · rintro ⟨⟩
    · exact h _ hv u hu

lemma writable_map_iff {place : Option Place} {entries : Entries} :
    Writable (map place entries) ↔
      ∀ e ∈ entries, (∃ name, e.1 = .string name) ∧ Writable e.2 := by
  constructor
  · intro h e he
    refine ⟨?_, fun u hu => h u (.entry he hu)⟩
    by_contra hkey
    exact h _ (.self _) (.key he (not_exists.mp hkey))
  · rintro h u (_ | _ | ⟨he, hu⟩)
    · rintro (⟨he, hkey⟩ | _ | _)
      obtain ⟨name, hname⟩ := (h _ he).1
      exact hkey name hname
    · exact (h _ he).2 u hu

/-- A value that holds no others is the only one within itself. -/
lemma writable_iff_of_not_container {v : Value} (h : v.isContainer = false) :
    Writable v ↔ ¬Unwritable v := by
  constructor
  · intro hv
    exact hv v (.self v)
  · rintro hv u (_ | _ | _)
    · exact hv
    · cases h
    · cases h

lemma exists_toJsonList_iff {items : List Value}
    (ih : ∀ v ∈ items, (∃ j, v.toJson = .ok j) ↔ Writable v) :
    (∃ js, toJsonList items = .ok js) ↔ ∀ v ∈ items, Writable v := by
  induction items with
  | nil => simp [toJsonList]
  | cons v rest ihrest =>
    obtain ⟨hv, hrest⟩ := List.forall_mem_cons.mp ih
    rw [List.forall_mem_cons, ← hv, ← ihrest hrest]
    constructor
    · rintro ⟨js, hjs⟩
      obtain ⟨j, js', hj, hjs', -⟩ := toJsonList_cons_eq_ok_iff.mp hjs
      exact ⟨⟨j, hj⟩, ⟨js', hjs'⟩⟩
    · rintro ⟨⟨j, hj⟩, ⟨js', hjs'⟩⟩
      exact ⟨j :: js', toJsonList_cons_eq_ok_iff.mpr ⟨j, js', hj, hjs', rfl⟩⟩

lemma exists_toJsonFields_iff {entries : Entries}
    (ih : ∀ e ∈ entries, (∃ j, e.2.toJson = .ok j) ↔ Writable e.2) :
    (∃ fields, toJsonFields entries = .ok fields) ↔
      ∀ e ∈ entries, (∃ name, e.1 = .string name) ∧ Writable e.2 := by
  induction entries with
  | nil => simp [toJsonFields]
  | cons e rest ihrest =>
    obtain ⟨k, v⟩ := e
    obtain ⟨hv, hrest⟩ := List.forall_mem_cons.mp ih
    rw [List.forall_mem_cons, ← hv, ← ihrest hrest]
    constructor
    · rintro ⟨fields, hfields⟩
      obtain ⟨name, j, fields', hk, hj, hfields', -⟩ := toJsonFields_cons_eq_ok_iff.mp hfields
      exact ⟨⟨⟨name, hk⟩, ⟨j, hj⟩⟩, ⟨fields', hfields'⟩⟩
    · rintro ⟨⟨⟨name, hk⟩, ⟨j, hj⟩⟩, ⟨fields', hfields'⟩⟩
      exact ⟨_, toJsonFields_cons_eq_ok_iff.mpr ⟨name, j, fields', hk, hj, hfields', rfl⟩⟩

lemma exists_toJson_iff (v : Value) : (∃ j, v.toJson = .ok j) ↔ Writable v := by
  induction v with
  | list place items ih =>
    rw [writable_list_iff, ← exists_toJsonList_iff ih]
    simp [toJson, map_eq_ok_iff]
  | map place entries ih =>
    rw [writable_map_iff, ← exists_toJsonFields_iff ih]
    simp [toJson, map_eq_ok_iff]
  | double d =>
    rw [writable_iff_of_not_container rfl]
    by_cases hfinite : d.isFinite = true
    · refine iff_of_true ⟨_, dif_pos hfinite⟩ ?_
      rintro ⟨⟩
      simp_all
    · refine iff_of_false ?_ (not_not.mpr (.double (by simpa using hfinite)))
      rintro ⟨j, hj⟩
      rw [toJson, dif_neg hfinite] at hj
      cases hj
  | function name target ih =>
    rw [writable_iff_of_not_container rfl]
    exact iff_of_false (by rintro ⟨j, ⟨⟩⟩) (not_not.mpr (.function name target))
  | _ =>
    rw [writable_iff_of_not_container rfl]
    exact iff_of_true ⟨_, rfl⟩ (by rintro ⟨⟩)

/-! ### The way back -/

mutual

/-- The form that JSON gives a value: unsigned numbers are signed where they fit, bytes are a list
of numbers, timestamps and durations are their texts. -/
def jsonForm : Value → Value
  | uint u => if u.toNat < 0x8000000000000000 then int (Int64.ofNat u.toNat) else uint u
  | bytes bs => list none (bs.map fun b => int (Int64.ofNat b.toNat))
  | timestamp t => string (String.ofList t.text)
  | duration d => string (String.ofList d.secondsText)
  | list place items => list place (jsonFormList items)
  | map place entries => map place (jsonFormEntries entries)
  | v => v

def jsonFormList : List Value → List Value
  | [] => []
  | v :: rest => jsonForm v :: jsonFormList rest

def jsonFormEntries : Entries → Entries
  | [] => []
  | (k, v) :: rest => (k, jsonForm v) :: jsonFormEntries rest

end

/-- The same value, in whatever order maps keep their entries and wherever lists and maps were made:
lists hold the same items one by one, maps have the same keys and for each the same value. -/
inductive Same : Value → Value → Prop
  | refl (v : Value) : Same v v
  | list {place place' : Option Place} {items items' : List Value} :
      List.Forall₂ Same items items' → Same (list place items) (list place' items')
  | map {place place' : Option Place} {entries entries' : Entries} :
      (∀ k, Option.Rel Same (Entries.find? k entries) (Entries.find? k entries')) →
      Same (map place entries) (map place' entries')

lemma ofWideInt_ofInt64 (i : Int64) : ofWideInt (.ofInt64 i) = int i := by
  have hlt := i.toInt_lt
  rw [ofWideInt, WideInt.ofInt64, if_pos (by simpa using hlt), Int64.ofInt_toInt]

lemma ofWideInt_ofUInt64 (u : UInt64) : ofWideInt (.ofUInt64 u) = jsonForm (uint u) := by
  have hlt : (u.toNat : Int) < 0x8000000000000000 ↔ u.toNat < 0x8000000000000000 := by omega
  rw [ofWideInt, WideInt.ofUInt64, jsonForm]
  simp only [hlt, Int.toNat_natCast, UInt64.ofNat_toNat]
  rfl

lemma ofWideInt_ofByte (b : UInt8) : ofWideInt (.ofByte b) = int (Int64.ofNat b.toNat) := by
  have hlt := b.toNat_lt
  rw [ofWideInt, WideInt.ofByte, if_pos (by simp; omega)]
  rfl

lemma ofJsonList_eq_map (js : List Json) : ofJsonList js = js.map ofJson := by
  induction js with
  | nil => rfl
  | cons j rest ih => rw [ofJsonList, ih, List.map_cons]

lemma find?_ofJsonFields_insert (k : Key) (name : String) (j : Json) (fields : JsonFields) :
    Entries.find? k (ofJsonFields (JsonFields.insert name j fields)) =
      if .string name = k then some (ofJson j) else Entries.find? k (ofJsonFields fields) := by
  induction fields with
  | nil => rfl
  | cons f rest ih =>
    obtain ⟨name', j'⟩ := f
    rw [JsonFields.insert]
    by_cases hlt : name < name'
    · rw [if_pos hlt]
      rfl
    rw [if_neg hlt]
    by_cases heq : name = name'
    · subst heq
      rw [if_pos rfl, ofJsonFields, ofJsonFields, Entries.find?, Entries.find?]
      split <;> rfl
    · rw [if_neg heq, ofJsonFields, ofJsonFields, Entries.find?, Entries.find?, ih]
      by_cases hk : Key.string name' = k
      · have hname : Key.string name ≠ k := fun hname => heq (Key.string.inj (hname.trans hk.symm))
        rw [if_pos hk, if_pos hk, if_neg hname]
      · rw [if_neg hk, if_neg hk]

lemma jsonFormList_same {items : List Value} {js : List Json}
    (ih : ∀ v ∈ items, ∀ j, v.toJson = .ok j → Same (ofJson j) v.jsonForm)
    (h : toJsonList items = .ok js) : List.Forall₂ Same (ofJsonList js) (jsonFormList items) := by
  induction items generalizing js with
  | nil =>
    cases h
    exact .nil
  | cons v rest ihrest =>
    obtain ⟨hv, hrest⟩ := List.forall_mem_cons.mp ih
    obtain ⟨j, js', hj, hjs', rfl⟩ := toJsonList_cons_eq_ok_iff.mp h
    exact .cons (hv j hj) (ihrest hrest hjs')

lemma jsonFormEntries_same {entries : Entries} {fields : JsonFields}
    (ih : ∀ e ∈ entries, ∀ j, e.2.toJson = .ok j → Same (ofJson j) e.2.jsonForm)
    (h : toJsonFields entries = .ok fields) (k : Key) :
    Option.Rel Same (Entries.find? k (ofJsonFields fields))
      (Entries.find? k (jsonFormEntries entries)) := by
  induction entries generalizing fields with
  | nil =>
    cases h
    exact .none
  | cons e rest ihrest =>
    obtain ⟨k', v⟩ := e
    obtain ⟨hv, hrest⟩ := List.forall_mem_cons.mp ih
    obtain ⟨name, j, fields', rfl, hj, hfields', rfl⟩ := toJsonFields_cons_eq_ok_iff.mp h
    rw [find?_ofJsonFields_insert, jsonFormEntries, Entries.find?]
    split
    · exact .some (hv j hj)
    · exact ihrest hrest hfields'

lemma same_jsonForm {v : Value} {j : Json} (h : v.toJson = .ok j) : Same (ofJson j) v.jsonForm := by
  induction v generalizing j with
  | null | bool b | string s | timestamp t | duration d =>
    cases h
    exact .refl _
  | int i =>
    cases h
    rw [ofJson, ofWideInt_ofInt64]
    exact .refl _
  | uint u =>
    cases h
    rw [ofJson, ofWideInt_ofUInt64]
    exact .refl _
  | double d =>
    rw [toJson] at h
    split at h <;> cases h
    exact .refl _
  | bytes bs =>
    cases h
    have hitems : (bs.map fun b => Json.int (.ofByte b)).map ofJson =
        bs.map fun b => int (Int64.ofNat b.toNat) := by
      rw [List.map_map]
      refine List.map_congr_left fun b _ => ?_
      rw [Function.comp_apply, ofJson, ofWideInt_ofByte]
    rw [ofJson, ofJsonList_eq_map, hitems]
    exact .refl _
  | list place items ih =>
    obtain ⟨js, hjs, rfl⟩ := map_eq_ok_iff.mp h
    exact .list (jsonFormList_same (fun v hv _ => ih v hv) hjs)
  | map place entries ih =>
    obtain ⟨fields, hfields, rfl⟩ := map_eq_ok_iff.mp h
    exact .map (jsonFormEntries_same (fun e he _ => ih e he) hfields)
  | function name target ih => cases h

/-- A value becomes JSON if and only if there is no map with a key that is not a string, no double
that is not finite and no function within it; and it comes back in its JSON form. -/
theorem toJson_exact (v : Value) :
    ((∃ j, v.toJson = .ok j) ↔ ∀ u, Within u v → ¬Unwritable u) ∧
    ∀ j, v.toJson = .ok j → Same (ofJson j) v.jsonForm :=
  ⟨exists_toJson_iff v, fun _ => same_jsonForm⟩

end GatedRelay.Expr.Value
