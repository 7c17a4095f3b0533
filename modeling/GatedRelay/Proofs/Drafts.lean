import GatedRelay.Proofs.Compiling

/-!
# Programs put together one by one

A step compiles a text and puts the program in the place of its role. Whatever the steps are, and
however many of them fail, a draft holds the last program of each role that came of one of them. A
set is compiled all at once by the same steps, only that the first one that fails ends everything.
-/

namespace GatedRelay.Expr

open Attempt

/-- Whether a text makes a program of the role. -/
def Installs (role : Role) (source : String) : Prop := ∃ p, Program.compile role source = .ok p

/-- The programs of a role that come of the steps, in order. -/
def installed (role : Role) (steps : List (Role × String)) : List Program :=
  steps.filterMap fun s =>
    if s.1 = role then (Program.compile role s.2).toOption else none

namespace Draft

/-- The draft after some steps. -/
def run (d : Draft) (steps : List (Role × String)) : Draft :=
  steps.foldl (fun d s => (d.step s.1 s.2).2) d

variable {d : Draft} {role role' : Role} {source : String} {p : Program}

lemma step_of_compile (h : Program.compile role source = .ok p) :
    d.step role source = (.ok (), d.put p) := by
  have hi : d.install role source = .ok (d.put p) := map_eq_ok_iff.mpr ⟨p, h, rfl⟩
  unfold step
  rw [hi]

/-- A step that fails leaves the draft as it is. -/
lemma step_of_error {f : Fault ProgramError} (h : Program.compile role source = .error f) :
    d.step role source = (.error f, d) := by
  have hi : d.install role source = .error f := map_eq_error_iff.mpr h
  unfold step
  rw [hi]

lemma step_eq_ok_iff : (d.step role source).1 = .ok () ↔ Installs role source := by
  cases h : Program.compile role source with
  | ok p => simp [step_of_compile h, Installs, h]
  | error f => simp [step_of_error h, Installs, h]

lemma step_of_not_installs (h : ¬Installs role source) : (d.step role source).2 = d := by
  cases hc : Program.compile role source with
  | ok p => exact (h ⟨p, hc⟩).elim
  | error f => rw [step_of_error hc]

lemma get?_put_self : (d.put p).get? p.role = some p := by
  unfold put
  cases h : p.role <;> rfl

lemma get?_put_of_ne (h : p.role ≠ role) : (d.put p).get? role = d.get? role := by
  unfold put
  cases hp : p.role <;> cases role <;> first | rfl | exact (h hp).elim

/-- What a step does to the place of a role. -/
lemma get?_step : (d.step role source).2.get? role' =
    (if role = role' then (Program.compile role' source).toOption else none).or
      (d.get? role') := by
  split_ifs with hr
  · subst hr
    cases h : Program.compile role source with
    | ok p =>
      obtain ⟨-, rfl, -, -⟩ := Program.compile_eq_ok_iff.mp h
      rw [step_of_compile h, get?_put_self]
      rfl
    | error f =>
      rw [step_of_error h]
      rfl
  · cases h : Program.compile role source with
    | ok p =>
      obtain ⟨-, rfl, -, -⟩ := Program.compile_eq_ok_iff.mp h
      rw [step_of_compile h, get?_put_of_ne hr]
      rfl
    | error f =>
      rw [step_of_error h]
      rfl

/-- After a run the place of a role has the last program that came of a step for it, and if none
did, what was there before. -/
lemma get?_run (d : Draft) (role : Role) (steps : List (Role × String)) :
    (d.run steps).get? role = (installed role steps).getLast?.or (d.get? role) := by
  induction steps generalizing d with
  | nil => rfl
  | cons s rest ih =>
    have hrun : d.run (s :: rest) = (d.step s.1 s.2).2.run rest := rfl
    rw [hrun, ih, get?_step, installed, installed, List.filterMap_cons]
    cases (if s.1 = role then (Program.compile role s.2).toOption else none) with
    | none => rfl
    | some p =>
      rw [List.getLast?_cons]
      cases (rest.filterMap _).getLast? <;> rfl

lemma get?_run_empty (role : Role) (steps : List (Role × String)) :
    (empty.run steps).get? role = (installed role steps).getLast? := by
  rw [get?_run]
  cases role <;> exact Option.or_none

lemma build_eq_ok_iff_get? {ps : ProgramSet} :
    d.build = .ok ps ↔ d.get? .authorization = some ps.authorization ∧
      d.get? .extraction = some ps.extraction ∧ d.get? .response = ps.response := by
  rw [build_eq_ok_iff, Draft.mk.injEq]
  rfl

lemma exists_build_iff :
    (∃ ps, d.build = .ok ps) ↔
      (d.get? .authorization).isSome = true ∧ (d.get? .extraction).isSome = true := by
  simp only [build_eq_ok_iff_get?]
  constructor
  · rintro ⟨ps, ha, he, -⟩
    rw [ha, he]
    exact ⟨rfl, rfl⟩
  · rintro ⟨ha, he⟩
    obtain ⟨a, ha⟩ := Option.isSome_iff_exists.mp ha
    obtain ⟨e, he⟩ := Option.isSome_iff_exists.mp he
    exact ⟨⟨a, e, d.get? .response⟩, ha, he, rfl⟩

end Draft

/-- The programs of a role are those of the steps for it that succeed. -/
lemma mem_installed {role : Role} {steps : List (Role × String)} {p : Program} :
    p ∈ installed role steps ↔
      ∃ source, (role, source) ∈ steps ∧ Program.compile role source = .ok p := by
  rw [installed, List.mem_filterMap]
  constructor
  · rintro ⟨⟨role', source⟩, hs, h⟩
    dsimp only at h
    split_ifs at h with hr
    subst hr
    refine ⟨source, hs, ?_⟩
    cases hc : Program.compile role' source with
    | ok q =>
      rw [hc] at h
      exact congrArg Except.ok (Option.some.inj h)
    | error f =>
      rw [hc] at h
      cases h
  · rintro ⟨source, hs, hc⟩
    refine ⟨_, hs, ?_⟩
    rw [if_pos rfl, hc]
    rfl

lemma isSome_getLast?_installed {role : Role} {steps : List (Role × String)} :
    (installed role steps).getLast?.isSome = true ↔
      ∃ source, (role, source) ∈ steps ∧ Installs role source := by
  rw [List.getLast?_isSome]
  constructor
  · intro h
    obtain ⟨p, hp⟩ := List.exists_mem_of_ne_nil _ h
    obtain ⟨source, hs, hc⟩ := mem_installed.mp hp
    exact ⟨source, hs, p, hc⟩
  · rintro ⟨source, hs, p, hc⟩
    exact List.ne_nil_of_mem (mem_installed.mpr ⟨source, hs, hc⟩)

/-- Steps of which each has to succeed for the next one to be made. -/
def Draft.installAll (d : Draft) (steps : List (Role × String)) : Attempt ProgramError Draft :=
  steps.foldlM (fun d s => d.install s.1 s.2) d

lemma Draft.installAll_cons_eq_ok_iff {d d' : Draft} {s : Role × String}
    {rest : List (Role × String)} :
    d.installAll (s :: rest) = .ok d' ↔
      ∃ d₁, d.install s.1 s.2 = .ok d₁ ∧ d₁.installAll rest = .ok d' := by
  have hall : d.installAll (s :: rest) = d.install s.1 s.2 >>= fun d => d.installAll rest :=
    List.foldlM_cons
  rw [hall, bind_eq_ok_iff]

/-- If all steps succeed, it makes no difference whether a failure would have ended them. -/
lemma Draft.installAll_eq_ok_iff {d d' : Draft} {steps : List (Role × String)} :
    d.installAll steps = .ok d' ↔ (∀ s ∈ steps, Installs s.1 s.2) ∧ d.run steps = d' := by
  induction steps generalizing d with
  | nil => simp [installAll, run, pure, Except.pure]
  | cons s rest ih =>
    have hrun : d.run (s :: rest) = (d.step s.1 s.2).2.run rest := rfl
    rw [hrun, installAll_cons_eq_ok_iff, List.forall_mem_cons]
    constructor
    · rintro ⟨d₁, hd₁, h⟩
      obtain ⟨p, hp, -, rfl⟩ := install_eq_ok_iff.mp hd₁
      obtain ⟨hrest, h⟩ := ih.mp h
      rw [step_of_compile hp]
      exact ⟨⟨⟨p, hp⟩, hrest⟩, h⟩
    · rintro ⟨⟨⟨p, hp⟩, hrest⟩, h⟩
      rw [step_of_compile hp] at h
      obtain ⟨-, hrole, -, -⟩ := Program.compile_eq_ok_iff.mp hp
      exact ⟨d.put p, install_eq_ok_iff.mpr ⟨p, hp, hrole, rfl⟩, ih.mpr ⟨hrest, h⟩⟩

namespace ProgramSet

/-- The steps that make a set of the given texts. -/
def steps (authorization extraction : String) (response : Option String) :
    List (Role × String) :=
  (.authorization, authorization) :: (.extraction, extraction) ::
    ((response.filter fun r => !Text.isBlankString r).map fun r => (.response, r)).toList

variable {authorization extraction : String} {response : Option String} {ps : ProgramSet}

lemma compile_eq_ok_iff_installAll :
    ProgramSet.compile authorization extraction response = .ok ps ↔
      ∃ d, Draft.empty.installAll (steps authorization extraction response) = .ok d ∧
        d.build = .ok ps := by
  simp only [steps, Draft.installAll_cons_eq_ok_iff, Draft.build_eq_ok_iff]
  unfold ProgramSet.compile
  constructor
  · intro h
    obtain ⟨d₁, h₁, h⟩ := bind_eq_ok_iff.mp h
    obtain ⟨d₂, h₂, h⟩ := bind_eq_ok_iff.mp h
    dsimp only at h
    split at h
    · next r hr =>
      obtain ⟨d₃, h₃, h⟩ := bind_eq_ok_iff.mp h
      rw [hr]
      have hlast : d₂.installAll [(.response, r)] = .ok d₃ :=
        Draft.installAll_cons_eq_ok_iff.mpr ⟨d₃, h₃, rfl⟩
      exact ⟨d₃, ⟨d₁, h₁, d₂, h₂, hlast⟩, build_step_eq_ok_iff.mp h⟩
    · next hr =>
      obtain ⟨d₃, h₃, h⟩ := bind_eq_ok_iff.mp h
      cases h₃
      rw [hr]
      exact ⟨d₂, ⟨d₁, h₁, d₂, h₂, rfl⟩, build_step_eq_ok_iff.mp h⟩
  · rintro ⟨d, ⟨d₁, h₁, d₂, h₂, hd⟩, h⟩
    refine bind_eq_ok_iff.mpr ⟨d₁, h₁, bind_eq_ok_iff.mpr ⟨d₂, h₂, ?_⟩⟩
    dsimp only
    split
    · next r hr =>
      rw [hr] at hd
      obtain ⟨d₃, h₃, hd⟩ := Draft.installAll_cons_eq_ok_iff.mp hd
      cases hd
      exact bind_eq_ok_iff.mpr ⟨d, h₃, build_step_eq_ok_iff.mpr h⟩
    · next hr =>
      rw [hr] at hd
      cases hd
      exact bind_eq_ok_iff.mpr ⟨d, rfl, build_step_eq_ok_iff.mpr h⟩

lemma compile_eq_ok_iff_run :
    ProgramSet.compile authorization extraction response = .ok ps ↔
      (∀ s ∈ steps authorization extraction response, Installs s.1 s.2) ∧
        (Draft.empty.run (steps authorization extraction response)).build = .ok ps := by
  rw [compile_eq_ok_iff_installAll]
  constructor
  · rintro ⟨d, hd, h⟩
    obtain ⟨hall, rfl⟩ := Draft.installAll_eq_ok_iff.mp hd
    exact ⟨hall, h⟩
  · rintro ⟨hall, h⟩
    exact ⟨_, Draft.installAll_eq_ok_iff.mpr ⟨hall, rfl⟩, h⟩

/-- The steps for a set have a program that authorizes and one that makes messages. -/
lemma exists_compile_iff :
    (∃ ps, ProgramSet.compile authorization extraction response = .ok ps) ↔
      ∀ s ∈ steps authorization extraction response, Installs s.1 s.2 := by
  have ha : (Role.authorization, authorization) ∈ steps authorization extraction response := by
    simp [steps]
  have he : (Role.extraction, extraction) ∈ steps authorization extraction response := by
    simp [steps]
  constructor
  · rintro ⟨ps, h⟩
    exact (compile_eq_ok_iff_run.mp h).1
  · intro hall
    have hbuild : ∃ ps, (Draft.empty.run (steps authorization extraction response)).build =
        .ok ps := by
      rw [Draft.exists_build_iff, Draft.get?_run_empty, Draft.get?_run_empty,
        isSome_getLast?_installed, isSome_getLast?_installed]
      exact ⟨⟨_, ha, hall (_, _) ha⟩, _, he, hall (_, _) he⟩
    obtain ⟨ps, hps⟩ := hbuild
    exact ⟨ps, compile_eq_ok_iff_run.mpr ⟨hall, hps⟩⟩

end ProgramSet

/-- What is in the place of the role that authorizes is a condition by its type. -/
lemma type_of_get?_run {steps : List (Role × String)} {p : Program}
    (h : (Draft.empty.run steps).get? .authorization = some p) :
    p.type = .bool ∧ infer [] p.body = (.bool, []) := by
  rw [Draft.get?_run_empty] at h
  obtain ⟨source, -, hc⟩ := mem_installed.mp (List.mem_of_getLast? h)
  obtain ⟨he, -, -, htype⟩ := Program.compile_eq_ok_iff.mp hc
  obtain ⟨-, hi⟩ := Expr.compile_eq_ok_iff.mp he
  have hbool := htype rfl
  exact ⟨hbool, hbool ▸ hi⟩

/-- Any steps, from an empty draft on: a further step succeeds if its text makes a program, and else
it leaves the draft as it is; the draft holds for each role the last program that came of a step; it
makes a set, of the programs it holds, if one that authorizes and one that makes messages came of
steps, and then the former is a condition. All programs at once compile if each of their steps
succeeds, and make the set that those steps make. -/
theorem draft_holds_last (steps : List (Role × String)) :
    let d := Draft.empty.run steps
    (∀ role source, ((d.step role source).1 = .ok () ↔ Installs role source) ∧
      (¬Installs role source → (d.step role source).2 = d)) ∧
    (∀ role, d.get? role = (installed role steps).getLast?) ∧
    ((∃ ps, d.build = .ok ps) ↔
      (∃ source, (.authorization, source) ∈ steps ∧ Installs .authorization source) ∧
        ∃ source, (.extraction, source) ∈ steps ∧ Installs .extraction source) ∧
    (∀ ps, d.build = .ok ps →
      d.get? .authorization = some ps.authorization ∧
      d.get? .extraction = some ps.extraction ∧ d.get? .response = ps.response ∧
      ps.authorization.type = .bool ∧ infer [] ps.authorization.body = (.bool, [])) ∧
    ∀ authorization extraction response,
      let whole := ProgramSet.steps authorization extraction response
      ((∃ ps, ProgramSet.compile authorization extraction response = .ok ps) ↔
        ∀ s ∈ whole, Installs s.1 s.2) ∧
      ∀ ps, ProgramSet.compile authorization extraction response = .ok ps →
        (Draft.empty.run whole).build = .ok ps := by
  intro d
  refine ⟨fun role source => ⟨Draft.step_eq_ok_iff, Draft.step_of_not_installs⟩,
    fun role => Draft.get?_run_empty role steps, ?_, fun ps hps => ?_, ?_⟩
  · rw [Draft.exists_build_iff, Draft.get?_run_empty, Draft.get?_run_empty,
      isSome_getLast?_installed, isSome_getLast?_installed]
  · obtain ⟨ha, he, hr⟩ := Draft.build_eq_ok_iff_get?.mp hps
    exact ⟨ha, he, hr, type_of_get?_run ha⟩
  · intro authorization extraction response whole
    exact ⟨ProgramSet.exists_compile_iff,
      fun ps hps => (ProgramSet.compile_eq_ok_iff_run.mp hps).2⟩

end GatedRelay.Expr
