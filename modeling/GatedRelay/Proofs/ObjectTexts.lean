import GatedRelay.Proofs.JsonText

/-!
# Objects and their texts

The text of an object names its fields one after the other. The object has the last field of each
name.
-/

namespace GatedRelay

namespace JsonFields

lemma get?_cons (name : String) (f : String × Json) (rest : JsonFields) :
    get? name (f :: rest) = if f.1 = name then some f.2 else get? name rest := by
  by_cases hf : f.1 = name
  · rw [if_pos hf, get?, List.find?_cons_of_pos (by simpa using hf)]
    rfl
  · rw [if_neg hf, get?, List.find?_cons_of_neg (by simpa using hf)]
    rfl

lemma get?_insert (name k : String) (value : Json) (fields : JsonFields) :
    get? name (insert k value fields) = if k = name then some value else get? name fields := by
  induction fields with
  | nil => rw [insert, get?_cons]
  | cons f rest ih =>
    rw [insert]
    by_cases hlt : k < f.1
    · rw [if_pos hlt, get?_cons]
    rw [if_neg hlt]
    by_cases heq : k = f.1
    · subst heq
      rw [if_pos rfl, get?_cons, get?_cons]
      by_cases hname : f.1 = name
      · rw [if_pos hname, if_pos hname]
      · rw [if_neg hname, if_neg hname, if_neg hname]
    · rw [if_neg heq, get?_cons, ih, get?_cons]
      by_cases hname : f.1 = name
      · have hk : k ≠ name := fun h => heq (h.trans hname.symm)
        rw [if_pos hname, if_pos hname, if_neg hk]
      · rw [if_neg hname, if_neg hname]

lemma get?_eq_none_iff {name : String} {fields : JsonFields} :
    get? name fields = none ↔ ∀ f ∈ fields, f.1 ≠ name := by
  simp [get?]

lemma get?_reverse_cons (name : String) (f : String × Json) (rest : JsonFields) :
    get? name (f :: rest).reverse =
      (get? name rest.reverse).or (if f.1 = name then some f.2 else none) := by
  rw [get?, List.reverse_cons, List.find?_append, Option.map_or]
  congr 1
  exact get?_cons name f []

lemma get?_foldl (name : String) (fields acc : JsonFields) :
    get? name (fields.foldl (fun acc f => insert f.1 f.2 acc) acc) =
      (get? name fields.reverse).or (get? name acc) := by
  induction fields generalizing acc with
  | nil => rfl
  | cons f rest ih =>
    rw [List.foldl_cons, ih, get?_insert, get?_reverse_cons, Option.or_assoc]
    by_cases hname : f.1 = name
    · rw [if_pos hname, if_pos hname]
      rfl
    · rw [if_neg hname, if_neg hname]
      rfl

/-- The last field of a name counts. -/
lemma get?_ofList (name : String) (fields : List (String × Json)) :
    get? name (ofList fields) = get? name fields.reverse := by
  rw [ofList, get?_foldl]
  exact Option.or_none

lemma get?_ofList_eq_none_iff {name : String} {fields : List (String × Json)} :
    get? name (ofList fields) = none ↔ ∀ f ∈ fields, f.1 ≠ name := by
  rw [get?_ofList, get?_eq_none_iff]
  simp only [List.mem_reverse]

/-- Of a name that does not repeat, it does not matter which of its fields counts. -/
lemma get?_ofList_of_count {name : String} {fields : List (String × Json)}
    (h : fields.countP (fun f => f.1 == name) ≤ 1) :
    get? name (ofList fields) = get? name fields := by
  rw [get?_ofList]
  induction fields with
  | nil => rfl
  | cons f rest ih =>
    rw [List.countP_cons] at h
    rw [get?_reverse_cons, get?_cons]
    by_cases hname : f.1 = name
    · have hcount : rest.countP (fun g => g.1 == name) = 0 := by
        simp only [hname, beq_self_eq_true, ite_true] at h
        omega
      have hrest : get? name rest.reverse = none := by
        rw [get?_eq_none_iff]
        simpa using hcount
      rw [if_pos hname, if_pos hname, hrest, Option.none_or]
    · rw [if_neg hname, if_neg hname, Option.or_none, ih (by omega)]

end JsonFields

namespace Json

lemma parseFields?_brace {cs body : List Char} (h : skipBlank cs = '{' :: body) :
    parseFields? cs =
      match openFields 126 body with
      | some (fs, rest) => if (skipBlank rest).isEmpty then some fs else none
      | none => none := by
  rw [parseFields?, h]
  rfl

lemma parseFields?_eq_some_iff {cs : List Char} {fs : List (String × Json)} :
    parseFields? cs = some fs ↔
      ∃ body rest, skipBlank cs = '{' :: body ∧ openFields 126 body = some (fs, rest) ∧
        (skipBlank rest).isEmpty = true := by
  constructor
  · intro h
    by_cases hbrace : ∃ body, skipBlank cs = '{' :: body
    · obtain ⟨body, hbody⟩ := hbrace
      rw [parseFields?_brace hbody] at h
      split at h
      · next gs rest hgs =>
        split_ifs at h with hend
        exact ⟨body, rest, hbody, by rw [hgs, Option.some.inj h], hend⟩
      · cases h
    · unfold parseFields? at h
      split at h
      · next body hbody => exact absurd ⟨body, hbody⟩ hbrace
      · cases h
  · rintro ⟨body, rest, hbody, hfs, hend⟩
    rw [parseFields?_brace hbody, hfs]
    exact if_pos hend

lemma parseFields?_print {fs : List (String × Json)} (ho : ∀ f ∈ fs, f.2.Ordered)
    (he : ∀ f ∈ fs, f.2.isExact = true) (hd : ∀ f ∈ fs, f.2.depth ≤ 126) :
    parseFields? (print (object fs)) = some fs := by
  have hprint : print (object fs) = '{' :: (printFields fs ++ ['}']) := by
    rw [print]
    rfl
  have hread : ∀ f ∈ fs, ReadsBack (value 126) f.2 := fun f hf =>
    readsBack_value (he f hf) fun _ => value_print (ho f hf) (he f hf) (hd f hf)
  have hbrace : skipBlank ('{' :: (printFields fs ++ ['}'])) = '{' :: (printFields fs ++ ['}']) :=
    skipBlank_of_opensValue (by decide) _
  rw [hprint]
  exact parseFields?_eq_some_iff.mpr ⟨_, [], hbrace, openFields_print hread [], rfl⟩

/-- Only a brace opens an object. -/
lemma eq_brace_of_value_object {depth : Nat} {cs rest : List Char} {fields : JsonFields}
    (h : value depth cs = some (object fields, rest)) : ∃ body, cs = '{' :: body := by
  rw [value.eq_def] at h
  split at h
  · cases h
  · next c body =>
    by_cases hc : c = '{'
    · exact ⟨body, by rw [hc]⟩
    split_ifs at h
    · obtain ⟨p, -, he⟩ := Option.map_eq_some_iff.mp h
      cases he
    · split at h
      · cases h
      · split at h
        · cases h
        · obtain ⟨p, -, he⟩ := Option.map_eq_some_iff.mp h
          cases he
    · cases number_gives true h
    · cases number_gives false h
    all_goals
      obtain ⟨p, -, he⟩ := Option.map_eq_some_iff.mp h
      cases he

/-- The object of a text has the fields that the text names. -/
theorem parse?_eq_object_iff {cs : List Char} {claims : JsonFields} :
    parse? cs = some (object claims) ↔
      ∃ fs, parseFields? cs = some fs ∧ JsonFields.ofList fs = claims := by
  constructor
  · intro h
    unfold parse? at h
    split at h
    · cases h
    · next j rest hj =>
      split_ifs at h with hend
      cases h
      obtain ⟨body, hbody⟩ := eq_brace_of_value_object hj
      rw [hbody, maxDepth, value_openFields] at hj
      obtain ⟨p, hp, he⟩ := Option.map_eq_some_iff.mp hj
      cases he
      exact ⟨p.1, parseFields?_eq_some_iff.mpr ⟨body, p.2, hbody, hp, hend⟩, rfl⟩
  · rintro ⟨fs, hfs, rfl⟩
    obtain ⟨body, rest, hbody, hopen, hend⟩ := parseFields?_eq_some_iff.mp hfs
    rw [parse?, hbody, maxDepth, value_openFields, hopen]
    dsimp only [Option.map_some]
    rw [if_pos hend]

end Json

end GatedRelay
