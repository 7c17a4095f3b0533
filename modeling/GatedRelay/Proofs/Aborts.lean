import GatedRelay.Expr.Eval
import GatedRelay.Proofs.Attempts
import GatedRelay.Proofs.FunctionNames

/-!
# Functions that end everything

A function of the library gives a value or says why not, with one exception: a number that is
formatted with more places than can be written takes down the whole call.
-/

namespace GatedRelay.Expr

open Attempt

namespace Format

/-- A directive with too many places meets a number, and all before it could be filled in. -/
inductive Overflows : List Piece → List Value → Prop
  | here {places : Nat} {verb : Char} {a : Value} (ps : List Piece) (args : List Value)
    (hverb : verb = 'f' ∨ verb = 'e') (hnumber : (double? a).isSome)
    (hplaces : maxPlaces < places) :
    Overflows (.value (some places) verb :: ps) (a :: args)
  | char {ps : List Piece} {args : List Value} (c : Char) :
    Overflows ps args → Overflows (.char c :: ps) args
  | value {precision : Option Nat} {verb : Char} {a : Value} {text : List Char} {ps : List Piece}
    {args : List Value} (htext : argument precision verb a = .ok text) :
    Overflows ps args → Overflows (.value precision verb :: ps) (a :: args)

lemma argument_overflow_iff {precision : Option Nat} {verb : Char} {a : Value} :
    argument precision verb a = .error .precisionOverflow ↔
      (verb = 'f' ∨ verb = 'e') ∧ (double? a).isSome ∧
        ∃ places, precision = some places ∧ maxPlaces < places := by
  unfold argument
  by_cases hs : verb = 's'
  · subst hs
    simp
  · rw [if_neg hs]
    by_cases hf : verb = 'f' ∨ verb = 'e'
    · rw [if_pos hf]
      cases double? a with
      | none => simp
      | some d =>
        cases precision with
        | none => simp [maxPlaces]
        | some places => by_cases hp : maxPlaces < places <;> simp [hf, hp]
    · rw [if_neg hf]
      refine iff_of_false (fun h => ?_) fun h => hf h.1
      split at h
      case h_5 => cases h
      all_goals
        split_ifs at h
        cases h

lemma overflows_value_iff {precision : Option Nat} {verb : Char} {a : Value} {ps : List Piece}
    {args : List Value} : Overflows (.value precision verb :: ps) (a :: args) ↔
      argument precision verb a = .error .precisionOverflow ∨
        ∃ text, argument precision verb a = .ok text ∧ Overflows ps args := by
  constructor
  · intro h
    cases h with
    | here _ _ hverb hnumber hplaces =>
      exact .inl (argument_overflow_iff.mpr ⟨hverb, hnumber, _, rfl, hplaces⟩)
    | value htext h => exact .inr ⟨_, htext, h⟩
  · rintro (h | ⟨text, htext, h⟩)
    · obtain ⟨hverb, hnumber, places, rfl, hplaces⟩ := argument_overflow_iff.mp h
      exact .here ps args hverb hnumber hplaces
    · exact .value htext h

lemma precision?_eq_error {cs : List Char} {e : Error} (h : precision? cs = .error e) :
    e = .badPrecision := by
  unfold precision? at h
  split at h
  · split at h
    · split at h <;> cases h
      rfl
    · cases h
      rfl
  · cases h

lemma broken_of_mem_pieces {cs : List Char} {e : Error} (h : .broken e ∈ pieces cs) :
    e = .badPrecision ∨ e = .unfinished := by
  fun_induction pieces cs with
  | case1 => cases h
  | case2 c rest hc ih =>
    rcases List.mem_cons.mp h with h | h
    · cases h
    · exact ih h
  | case3 c rest hc e' he' =>
    cases List.mem_singleton.mp h
    exact .inl (precision?_eq_error he')
  | case4 c rest hc precision hp hrest =>
    cases List.mem_singleton.mp h
    exact .inr rfl
  | case5 c rest hc precision hp verb rest' hrest ih =>
    rcases List.mem_cons.mp h with h | h
    · split at h <;> cases h
    · exact ih h

-- A broken piece carries an error of its own, which could be this one for pieces of no template.
lemma fill_overflow_iff (supplied : Nat) {ps : List Piece} (args : List Value)
    (hps : .broken .precisionOverflow ∉ ps) :
    fill supplied ps args = .error .precisionOverflow ↔ Overflows ps args := by
  induction ps generalizing args with
  | nil =>
    refine iff_of_false (fun h => ?_) nofun
    cases args <;> cases h
  | cons p ps ih =>
    have hrest : .broken .precisionOverflow ∉ ps := fun h => hps (List.mem_cons_of_mem _ h)
    cases p with
    | char c =>
      rw [fill, map_eq_error_iff, ih args hrest]
      refine ⟨.char c, fun h => ?_⟩
      cases h with
      | char _ h => exact h
    | broken e =>
      refine iff_of_false (fun h => ?_) nofun
      cases h
      exact hps (List.mem_cons_self ..)
    | value precision verb =>
      cases args with
      | nil => exact iff_of_false nofun nofun
      | cons a args =>
        rw [fill, overflows_value_iff]
        cases argument precision verb a with
        | error e => simp
        | ok text => simp [map_eq_error_iff, ih args hrest]

theorem format_overflow_iff (template : List Char) (args : List Value) :
    format template args = .error .precisionOverflow ↔ Overflows (pieces template) args := by
  refine fill_overflow_iff _ _ fun h => ?_
  rcases broken_of_mem_pieces h with h | h <;> cases h

end Format

/-- A format that overflows. -/
def Library.Overflows (f : Library) (vs : List Value) : Prop :=
  f = .format ∧ ∃ template place items, vs = [.string template, .list place items] ∧
    Format.Overflows (Format.pieces template.toList) items

namespace Outcome

lemma ofOption_ne_aborted (r : Refusal) (x : Option Value) : ofOption r x ≠ aborted := by
  cases x <;> exact nofun

lemma ofRefusal_ne_aborted (x : Except Refusal Value) : ofRefusal x ≠ aborted := by
  cases x <;> exact nofun

lemma toEval_eq_aborted_iff {function : String} {x : Outcome} :
    x.toEval function = .error .aborted ↔ x = aborted := by
  cases x <;> simp [toEval, fail, Attempt.abort]

end Outcome

namespace Library

open Outcome

lemma rangeTest_ne_aborted (addr range : String) : rangeTest addr range ≠ .aborted := by
  unfold rangeTest
  split
  · exact nofun
  · split <;> exact nofun

lemma jsonObject_ne_aborted (text : String) : jsonObject text ≠ .aborted := by
  unfold jsonObject
  split <;> exact nofun

lemma tokenClaims_ne_aborted (now : Moment) (key token : String) :
    tokenClaims now key token ≠ .aborted := by
  unfold tokenClaims
  split <;> exact nofun

lemma characterAt_ne_aborted (s : String) (i : Int64) : characterAt s i ≠ .aborted := by
  unfold characterAt
  dsimp only
  split <;> exact nofun

lemma timePart_ne_aborted (p : TimePart) (this : Value) (args : List Value) :
    timePart p this args ≠ .aborted := by
  unfold timePart
  split
  · exact nofun
  · split <;> exact nofun
  · exact ofOption_ne_aborted _ _
  · exact nofun

lemma formatted_eq_aborted_iff {template : String} {items : List Value} :
    formatted template items = .aborted ↔
      Format.Overflows (Format.pieces template.toList) items := by
  rw [← Format.format_overflow_iff, formatted]
  split
  · next h => simp [h]
  · next h => simp [h]
  · next h => simp_all

theorem apply_eq_aborted_iff (now : Moment) (f : Library) (vs : List Value) :
    f.apply now vs = .aborted ↔ f.Overflows vs := by
  constructor
  · intro h
    unfold apply at h
    split at h
    · exact absurd h (rangeTest_ne_aborted _ _)
    · exact absurd h (jsonObject_ne_aborted _)
    · exact absurd h (tokenClaims_ne_aborted _ _ _)
    · cases h
    · cases h
    · exact absurd h (ofRefusal_ne_aborted _)
    · cases h
    · cases h
    · cases h
    · cases h
    · cases h
    · cases h
    · cases h
    · exact absurd h (characterAt_ne_aborted _ _)
    · cases h
    · next template place items =>
      exact ⟨rfl, template, place, items, rfl, formatted_eq_aborted_iff.mp h⟩
    · exact absurd h (ofRefusal_ne_aborted _)
    · cases h
    · cases h
    · exact absurd h (ofOption_ne_aborted _ _)
    · exact absurd h (timePart_ne_aborted _ _ _)
    · cases h
  · rintro ⟨rfl, template, place, items, rfl, h⟩
    exact formatted_eq_aborted_iff.mpr h

end Library

/-! ### Calls -/

/-- A call of a function of the library, on a target or without one. -/
def Library.callOn (f : Library) (target : Option Term) (args : List Term) : Term :=
  match target with
  | none => .call f.handler args
  | some e => .method e f.handler args

/-- The values that a call hands to its function, each of them of the kind that the function takes.
Without a target the first argument is the subject. -/
def Library.operands (f : Library) (s : Scope) (target : Option Term) (args : List Term) :
    Eval (List Value) :=
  match target, f.signature.subject, args with
  | none, none, args => evalArgs (s.step 0) args f.signature.params f.signature.takesRest
  | none, some _, [] => fail .missingArgument
  | none, some k, e :: rest => do
    let v ← orMissing (eval (s.step 0) e)
    let v ← checkKind k v
    let vs ← evalArgs (s.step 1) rest f.signature.params f.signature.takesRest
    .ok (v :: vs)
  | some e, none, args => do
    let _ ← eval (s.step 0) e
    evalArgs (s.step 1) args f.signature.params f.signature.takesRest
  | some e, some k, args => do
    let v ← eval (s.step 0) e
    let v ← checkKind k v
    let vs ← evalArgs (s.step 1) args f.signature.params f.signature.takesRest
    .ok (v :: vs)

lemma eval_callOn (f : Library) (s : Scope) (target : Option Term) (args : List Term) :
    eval s (f.callOn target args) =
      f.operands s target args >>= (Function.library f).apply s.now := by
  unfold Library.callOn Library.operands
  cases target with
  | none =>
    dsimp only
    rw [eval.eq_def s (.call f.handler args)]
    dsimp only
    rw [Function.ofHandler?_handler]
    dsimp only [Function.signature]
    cases f.signature.subject with
    | none => rfl
    | some k =>
      cases args with
      | nil => rfl
      | cons e rest =>
        simp only [bind_assoc]
        rfl
  | some e =>
    dsimp only
    rw [eval.eq_def s (.method e f.handler args)]
    dsimp only
    rw [Function.ofHandler?_handler]
    dsimp only [Function.signature]
    cases f.signature.subject with
    | none => simp only [bind_assoc]
    | some k =>
      simp only [bind_assoc]
      rfl

/-- A call on a target applies the function to the target and the arguments. -/
lemma eval_method_of_eval {f : Library} {s : Scope} {e : Term} {v : Value} {k : ParamKind}
    {args : List Term} {vs : List Value} (hsubject : f.signature.subject = some k)
    (he : eval (s.step 0) e = .ok v) (hk : k.accepts v = true)
    (hargs : evalArgs (s.step 1) args f.signature.params f.signature.takesRest = .ok vs) :
    eval s (.method e f.handler args) = (Function.library f).apply s.now (v :: vs) := by
  have hcall := eval_callOn f s (some e) args
  unfold Library.callOn Library.operands at hcall
  rw [hsubject] at hcall
  dsimp only at hcall
  rw [he, hargs] at hcall
  dsimp only [bind, Except.bind, checkKind] at hcall
  rwa [if_pos hk] at hcall

/-- Whether a term ends everything at some step with the bindings and the world of a scope. -/
def Term.AbortsIn (s : Scope) (e : Term) : Prop :=
  ∃ t : Scope, t.bindings = s.bindings ∧ t.world = s.world ∧ eval t e = .error .aborted

lemma checkKind_ne_aborted (k : ParamKind) (v : Value) : checkKind k v ≠ .error .aborted := by
  unfold checkKind
  split <;> exact nofun

lemma orMissing_aborted {r : Eval Value} (h : orMissing r = .error .aborted) :
    r = .error .aborted := by
  unfold orMissing at h
  split at h
  · cases h
  · cases h
  · rfl

lemma evalArgs_aborted {s : Scope} {args : List Term} {kinds : List ParamKind} {more : Bool}
    (h : evalArgs s args kinds more = .error .aborted) : ∃ e ∈ args, e.AbortsIn s := by
  induction args generalizing s kinds with
  | nil => cases kinds <;> cases h
  | cons e rest ih =>
    have hrest {ks : List ParamKind} (h : evalArgs s.next rest ks more = .error .aborted) :
        ∃ e' ∈ e :: rest, e'.AbortsIn s := by
      obtain ⟨e', he', ha⟩ := ih h
      exact ⟨e', List.mem_cons_of_mem _ he', ha⟩
    cases kinds with
    | nil =>
      cases more with
      | false => cases h
      | true =>
        rcases bind_eq_error_iff.mp h with h | ⟨v, -, h⟩
        · exact ⟨e, List.mem_cons_self .., s, rfl, rfl, h⟩
        · rcases bind_eq_error_iff.mp h with h | ⟨vs, -, h⟩
          · exact hrest h
          · cases h
    | cons k ks =>
      rcases bind_eq_error_iff.mp h with h | ⟨v, -, h⟩
      · exact ⟨e, List.mem_cons_self .., s, rfl, rfl, h⟩
      · rcases bind_eq_error_iff.mp h with h | ⟨v', -, h⟩
        · exact absurd h (checkKind_ne_aborted _ _)
        · rcases bind_eq_error_iff.mp h with h | ⟨vs, -, h⟩
          · exact hrest h
          · cases h

/-- Handing values to a function ends everything only if one of its terms does. -/
lemma Library.operands_aborted {f : Library} {s : Scope} {target : Option Term} {args : List Term}
    (h : f.operands s target args = .error .aborted) :
    ∃ e ∈ target.toList ++ args, e.AbortsIn s := by
  have hargs {args' : List Term} (hsub : ∀ e ∈ args', e ∈ target.toList ++ args) {i : Nat}
      (h : evalArgs (s.step i) args' f.signature.params f.signature.takesRest = .error .aborted) :
      ∃ e ∈ target.toList ++ args, e.AbortsIn s := by
    obtain ⟨e, he, ha⟩ := evalArgs_aborted h
    exact ⟨e, hsub e he, ha⟩
  -- The subject is a value already, and what is left are the other arguments.
  have hsubject {args' : List Term} (hsub : ∀ e ∈ args', e ∈ target.toList ++ args) {i : Nat}
      {k : ParamKind} {v : Value}
      (h : (do
        let v ← checkKind k v
        let vs ← evalArgs (s.step i) args' f.signature.params f.signature.takesRest
        .ok (v :: vs)) = .error .aborted) :
      ∃ e ∈ target.toList ++ args, e.AbortsIn s := by
    rcases bind_eq_error_iff.mp h with h | ⟨v', -, h⟩
    · exact absurd h (checkKind_ne_aborted _ _)
    · rcases bind_eq_error_iff.mp h with h | ⟨vs, -, h⟩
      · exact hargs hsub h
      · cases h
  unfold operands at h
  split at h
  · exact hargs (fun e he => he) h
  · cases h
  · next e rest _ =>
    rcases bind_eq_error_iff.mp h with h | ⟨v, -, h⟩
    · exact ⟨e, List.mem_cons_self .., s.step 0, rfl, rfl, orMissing_aborted h⟩
    · exact hsubject (fun e' he' => List.mem_cons_of_mem _ he') h
  · next e _ =>
    rcases bind_eq_error_iff.mp h with h | ⟨v, -, h⟩
    · exact ⟨e, List.mem_cons_self .., s.step 0, rfl, rfl, h⟩
    · exact hargs (fun e' he' => List.mem_cons_of_mem _ he') h
  · next e k _ =>
    rcases bind_eq_error_iff.mp h with h | ⟨v, -, h⟩
    · exact ⟨e, List.mem_cons_self .., s.step 0, rfl, rfl, h⟩
    · exact hsubject (fun e' he' => List.mem_cons_of_mem _ he') h

/-- A function of the library, and a call of it whose terms end nothing, ends everything exactly if
it formats a number with more places than can be written. -/
theorem library_aborts_iff (f : Library) :
    (∀ now vs, (Function.library f).apply now vs = .error .aborted ↔ f.Overflows vs) ∧
    ∀ (s : Scope) (target : Option Term) (args : List Term),
      (∀ e ∈ target.toList ++ args, ¬e.AbortsIn s) →
        (eval s (f.callOn target args) = .error .aborted ↔
          ∃ vs, f.operands s target args = .ok vs ∧ f.Overflows vs) := by
  have happly (now : Moment) (vs : List Value) :
      (Function.library f).apply now vs = .error .aborted ↔ f.Overflows vs := by
    rw [Function.apply, Outcome.toEval_eq_aborted_iff, Library.apply_eq_aborted_iff]
  refine ⟨happly, fun s target args hspared => ?_⟩
  rw [eval_callOn, bind_eq_error_iff]
  simp only [happly]
  refine or_iff_right fun h => ?_
  obtain ⟨e, he, ha⟩ := Library.operands_aborted h
  exact hspared e he ha

lemma overflows_one (place : Option Place) :
    Library.format.Overflows [.string "%.65536f", .list place [.int 1]] := by
  have hpieces : Format.pieces "%.65536f".toList = [.value (some 65536) 'f'] := by decide +kernel
  refine ⟨rfl, _, _, _, rfl, ?_⟩
  rw [hpieces]
  exact .here [] [] (.inl rfl) rfl (by decide)

theorem library_aborts_iff_format :
    eval (Scope.root (0 : Int) .null .null)
      (Library.format.callOn (some (.literal (.string "%.65536f")))
        [.list [.literal (.int 1)]]) = .error .aborted := by
  refine ((library_aborts_iff .format).2 _ _ _ fun e he => ?_).mpr ⟨_, rfl, overflows_one _⟩
  rintro ⟨t, -, -, h⟩
  obtain rfl | rfl : e = .literal (.string "%.65536f") ∨ e = .list [.literal (.int 1)] := by
    simpa using he
  · cases h
  · cases h

/-- One place more than can be written is too many. -/
theorem format_aborts_beyond_maxPlaces :
    (Function.library .format).apply (0 : Int) [.string "%.65536f", .list none [.int 1]] =
      .error .aborted := by
  rw [Function.apply, Outcome.toEval_eq_aborted_iff, Library.apply_eq_aborted_iff]
  exact overflows_one none

end GatedRelay.Expr
