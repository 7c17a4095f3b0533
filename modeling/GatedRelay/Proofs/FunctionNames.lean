import GatedRelay.Expr.Typing
import Mathlib.Data.List.Basic

/-!
# Names of functions

The checker knows a function by its full name, and evaluation by its name without the namespace.
Both come to the same function.
-/

namespace GatedRelay.Expr

lemma append_dot_inj {a b c d : List Char} (ha : '.' ∉ a) (hb : '.' ∉ b)
    (h : a ++ '.' :: b = c ++ '.' :: d) : a = c ∧ b = d := by
  rcases List.append_eq_append_iff.mp h with ⟨e, hc, hd⟩ | ⟨e, hac, hd⟩
  · cases e with
    | nil => simpa [eq_comm] using And.intro hc hd
    | cons x e =>
      obtain ⟨-, hb'⟩ := List.cons.inj hd
      exact (hb (by simp [hb'])).elim
  · cases e with
    | nil => simpa [eq_comm] using And.intro hac hd
    | cons x e =>
      obtain ⟨rfl, -⟩ := List.cons.inj hd
      exact (ha (by simp [hac])).elim

namespace Builtin

lemma mem_allBuiltins (b : Builtin) : b ∈ allBuiltins := by
  cases b with
  | form f => cases f <;> decide
  | _ => decide

lemma name_of_ofName? {name : String} {b : Builtin} (h : ofName? name = some b) :
    b.name = name := by
  simpa using List.find?_some h

end Builtin

namespace Library

lemma mem_allFunctions (f : Library) : f ∈ allFunctions := by
  cases f with
  | part p => cases p <;> decide
  | _ => decide

lemma name_of_ofName? {name : String} {f : Library} (h : ofName? name = some f) :
    f.name = name := by
  simpa using List.find?_some h

lemma dot_notMem_handler (f : Library) : '.' ∉ f.handler.toList :=
  (by decide : ∀ f ∈ allFunctions, '.' ∉ f.handler.toList) f (mem_allFunctions f)

lemma dot_notMem_space {f : Library} {space : String} (h : f.spaceOf? = some space) :
    '.' ∉ space.toList := by
  have hall : ∀ f ∈ allFunctions, ∀ space ∈ f.spaceOf?, '.' ∉ space.toList := by decide
  exact hall f (mem_allFunctions f) space h

lemma toList_name_of_space {f : Library} {space : String} (h : f.spaceOf? = some space) :
    f.name.toList = space.toList ++ '.' :: f.handler.toList := by
  simp [name, h, String.toList_append]

/-- A full name with a point in it says which namespace the function is in. -/
lemma space_handler_of_name {f : Library} {space bare : String} (h : f.name = space ++ "." ++ bare) :
    f.spaceOf? = some space ∧ f.handler = bare := by
  have hlist : f.name.toList = space.toList ++ '.' :: bare.toList := by
    simp [h, String.toList_append]
  cases hs : f.spaceOf? with
  | none =>
    have hh : f.name = f.handler := by simp [name, hs]
    have hdot := f.dot_notMem_handler
    rw [← hh, hlist] at hdot
    simp at hdot
  | some space' =>
    rw [toList_name_of_space hs] at hlist
    obtain ⟨hspace, he⟩ := append_dot_inj (dot_notMem_space hs) f.dot_notMem_handler hlist
    exact ⟨congrArg some (String.toList_inj.mp hspace), String.toList_inj.mp he⟩

lemma mem_spaces {f : Library} {space : String} (h : f.spaceOf? = some space) : space ∈ spaces := by
  have hall : ∀ f ∈ allFunctions, ∀ space ∈ f.spaceOf?, space ∈ spaces := by decide
  exact hall f (mem_allFunctions f) space h

end Library

namespace Function

lemma ofHandler?_handler (f : Library) : ofHandler? f.handler = some (library f) :=
  (by decide : ∀ f ∈ Library.allFunctions, ofHandler? f.handler = some (library f)) f
    (Library.mem_allFunctions f)

lemma ofHandler?_name (b : Builtin) : ofHandler? b.name = some (builtin b) :=
  (by decide : ∀ b ∈ Builtin.allBuiltins, ofHandler? b.name = some (builtin b)) b
    (Builtin.mem_allBuiltins b)

lemma ofHandler?_of_noSpace {f : Library} (h : f.spaceOf? = none) :
    ofHandler? f.name = some (library f) := by
  have hname : f.name = f.handler := by simp [Library.name, h]
  rw [hname, ofHandler?_handler]

/-- A function in a namespace cannot be called by its full name alone. -/
lemma ofHandler?_of_space {f : Library} {space : String} (h : f.spaceOf? = some space) :
    ofHandler? f.name = none := by
  have hall : ∀ f ∈ Library.allFunctions, f.spaceOf?.isSome → ofHandler? f.name = none := by decide
  exact hall f (Library.mem_allFunctions f) (by simp [h])

lemma ofHandler?_of_builtin {name : String} {b : Builtin} (h : Builtin.ofName? name = some b) :
    ofHandler? name = some (builtin b) := by
  rw [← Builtin.name_of_ofName? h, ofHandler?_name]

/-- A name without a point is the name by which evaluation knows the function. -/
lemma ofHandler?_of_library {name : String} {f : Library} (h : Library.ofName? name = some f)
    (hdot : '.' ∉ name.toList) : ofHandler? name = some (library f) := by
  obtain rfl := Library.name_of_ofName? h
  cases hs : f.spaceOf? with
  | none => exact ofHandler?_of_noSpace hs
  | some space =>
    rw [Library.toList_name_of_space hs] at hdot
    simp at hdot

/-- Evaluation takes a full name for no other function, if for any. -/
lemma eq_library_of_ofHandler? {name : String} {f : Library} {g : Function}
    (h : Library.ofName? name = some f) (hg : ofHandler? name = some g) : g = library f := by
  obtain rfl := Library.name_of_ofName? h
  cases hs : f.spaceOf? with
  | none =>
    rw [ofHandler?_of_noSpace hs] at hg
    exact (Option.some.inj hg).symm
  | some space =>
    rw [ofHandler?_of_space hs] at hg
    cases hg

end Function

/-- A qualified name consists of a namespace and the name by which evaluation knows the function. -/
lemma eq_ident_of_qualified? {bound : List String} {target : Term} {name : String} {f : Library}
    (h : qualified? bound target name = some f) :
    ∃ space ∈ Library.spaces, target = .ident space ∧ f.handler = name := by
  unfold qualified? at h
  split at h
  · split at h
    · cases h
    · obtain ⟨hspace, hname⟩ := Library.space_handler_of_name (Library.name_of_ofName? h)
      exact ⟨_, Library.mem_spaces hspace, rfl, hname⟩
  · cases h

lemma ofHandler?_of_qualified? {bound : List String} {target : Term} {name : String} {f : Library}
    (h : qualified? bound target name = some f) :
    Function.ofHandler? name = some (.library f) := by
  obtain ⟨-, -, -, rfl⟩ := eq_ident_of_qualified? h
  exact Function.ofHandler?_handler f

lemma ofHandler?_of_comprehension? {name : String} {b : Builtin} (h : comprehension? name = some b) :
    Function.ofHandler? name = some (.builtin b) :=
  Function.ofHandler?_of_builtin (Option.filter_eq_some_iff.mp h).1

end GatedRelay.Expr
