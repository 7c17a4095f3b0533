import GatedRelay.Expr.ProgramSet
import GatedRelay.Proofs.Attempts

/-!
# What a compiled expression has passed

A text that compiles was read as a whole, no literal in it denotes nothing, and the checker found no
problem.
-/

namespace GatedRelay.Expr

open Attempt

lemma read_eq_parsed_iff {source : String} {e : Term} :
    Expr.read source = .parsed e ↔
      Parser.whole (Token.ofText source.toList) = .ok e ∧
        (Token.ofText source.toList).any Token.isUnreadable = false := by
  unfold Expr.read
  dsimp only
  split
  · next e' he =>
    rw [he]
    split
    · next hu => simp [hu]
    · next hu => simp [Bool.eq_false_iff.mpr hu]
  · next left hl =>
    rw [hl]
    split <;> simp

lemma check_eq_ok_iff {e : Term} {t : Ty} : check e = .ok t ↔ infer [] e = (t, []) := by
  unfold check
  dsimp only
  generalize infer [] e = r
  obtain ⟨a, problems⟩ := r
  cases problems <;> simp

theorem compile_eq_ok_iff {source : String} {e : Term} {t : Ty} :
    compile source = .ok (e, t) ↔ Expr.read source = .parsed e ∧ infer [] e = (t, []) := by
  rw [← check_eq_ok_iff]
  unfold compile
  split
  · next hr => simp [hr, abort]
  · next hr => simp [hr, fail]
  · next e' hr =>
    rw [hr, Reading.parsed.injEq]
    split
    · next t' ht =>
      constructor
      · intro h
        cases h
        exact ⟨rfl, ht⟩
      · rintro ⟨rfl, h⟩
        cases ht.symm.trans h
        rfl
    · next problems hp =>
      constructor
      · intro h
        cases h
      · rintro ⟨rfl, h⟩
        cases hp.symm.trans h

/-- A program that authorizes is one whose expression has type `bool`. -/
lemma Program.compile_eq_ok_iff {role : Role} {source : String} {p : Program} :
    Program.compile role source = .ok p ↔
      Expr.compile source = .ok (p.body, p.type) ∧ p.role = role ∧ p.source = source ∧
        (role = .authorization → p.type = .bool) := by
  unfold Program.compile
  rw [bind_eq_ok_iff]
  constructor
  · rintro ⟨⟨e, t⟩, he, h⟩
    rw [mapFailure_eq_ok_iff] at he
    dsimp only at h
    split at h
    · cases h
    · next hb =>
      cases h
      refine ⟨he, rfl, rfl, fun hr => ?_⟩
      by_contra ht
      exact hb ⟨hr, ht⟩
  · rintro ⟨he, rfl, rfl, ht⟩
    refine ⟨_, mapFailure_eq_ok_iff.mpr he, ?_⟩
    dsimp only
    rw [if_neg]
    rintro ⟨hr, hb⟩
    exact hb (ht hr)

lemma Draft.install_eq_ok_iff {d d' : Draft} {role : Role} {source : String} :
    d.install role source = .ok d' ↔
      ∃ p, Program.compile role source = .ok p ∧ p.role = role ∧ d.put p = d' := by
  rw [Draft.install, map_eq_ok_iff]
  refine exists_congr fun p => and_congr_right fun hp => ?_
  rw [and_iff_right (Program.compile_eq_ok_iff.mp hp).2.1]

lemma Draft.build_eq_ok_iff {d : Draft} {ps : ProgramSet} :
    d.build = .ok ps ↔ d = ⟨some ps.authorization, some ps.extraction, ps.response⟩ := by
  obtain ⟨a, e, r⟩ := d
  obtain ⟨a', e', r'⟩ := ps
  cases a <;> cases e <;> simp [Draft.build]

namespace ProgramSet

/-- The set that a draft makes, as a step of putting programs together. -/
lemma build_step_eq_ok_iff {d : Draft} {ps : ProgramSet} :
    (match d.build with
      | .ok ps => .ok ps
      | .error e => fail e : Attempt ProgramError ProgramSet) = .ok ps ↔
      d = ⟨some ps.authorization, some ps.extraction, ps.response⟩ := by
  rw [← Draft.build_eq_ok_iff]
  cases d.build <;> simp [fail]

/-- A set holds the programs that its texts compile to. -/
theorem programs_of_compile {authorization extraction : String} {response : Option String}
    {ps : ProgramSet} (h : ProgramSet.compile authorization extraction response = .ok ps) :
    Program.compile .authorization authorization = .ok ps.authorization ∧
      Program.compile .extraction extraction = .ok ps.extraction := by
  unfold ProgramSet.compile at h
  obtain ⟨d₁, h₁, h⟩ := bind_eq_ok_iff.mp h
  obtain ⟨d₂, h₂, h⟩ := bind_eq_ok_iff.mp h
  obtain ⟨p, hp, hprole, rfl⟩ := Draft.install_eq_ok_iff.mp h₁
  obtain ⟨q, hq, hqrole, rfl⟩ := Draft.install_eq_ok_iff.mp h₂
  dsimp only at h
  split at h
  · obtain ⟨d₃, h₃, h⟩ := bind_eq_ok_iff.mp h
    obtain ⟨r, -, hrrole, rfl⟩ := Draft.install_eq_ok_iff.mp h₃
    replace h := build_step_eq_ok_iff.mp h
    simp only [Draft.put, hprole, hqrole, hrrole, Draft.mk.injEq, Option.some.injEq] at h
    exact ⟨h.1 ▸ hp, h.2.1 ▸ hq⟩
  · obtain ⟨d₃, h₃, h⟩ := bind_eq_ok_iff.mp h
    cases h₃
    replace h := build_step_eq_ok_iff.mp h
    simp only [Draft.put, hprole, hqrole, Draft.mk.injEq, Option.some.injEq] at h
    exact ⟨h.1 ▸ hp, h.2.1 ▸ hq⟩

/-- Without a program that makes answers, a set needs nothing but its two texts to compile. -/
lemma compile_of_programs {authorization extraction : String} {p q : Program}
    (hp : Program.compile .authorization authorization = .ok p)
    (hq : Program.compile .extraction extraction = .ok q) :
    ProgramSet.compile authorization extraction none = .ok ⟨p, q, none⟩ := by
  have hprole := (Program.compile_eq_ok_iff.mp hp).2.1
  have hqrole := (Program.compile_eq_ok_iff.mp hq).2.1
  have h₁ : Draft.empty.install .authorization authorization = .ok ⟨some p, none, none⟩ := by
    rw [Draft.install, hp, Except.map, Draft.put, hprole]
    rfl
  have h₂ : Draft.install ⟨some p, none, none⟩ .extraction extraction =
      .ok ⟨some p, some q, none⟩ := by
    rw [Draft.install, hq, Except.map, Draft.put, hqrole]
  rw [ProgramSet.compile, h₁]
  dsimp only [Bind.bind, Except.bind]
  rw [h₂]
  rfl

end ProgramSet

end GatedRelay.Expr
