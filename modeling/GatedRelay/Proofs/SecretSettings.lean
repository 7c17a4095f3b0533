import GatedRelay.Config.Settings
import GatedRelay.Proofs.Attempts
import GatedRelay.Proofs.TextParts

/-!
# References to secrets in settings

Each reference is replaced by the payload of the secret version that it names, up to the first
that cannot be read. The project is left out: a reference there is never looked up.
-/

namespace GatedRelay

/-- A source of secrets. What it answers may depend on what it was asked before. -/
abbrev SecretSource := List String → String → Attempt SecretError String

/-- Asks a source, and notes the name. -/
def SecretSource.access (source : SecretSource) (name : String) :
    StateM (List String) (Attempt SecretError String) :=
  fun asked => (source asked name, asked ++ [name])

namespace Secret

open Text (IsStem isStem_iff occursIn_eq_true_iff)

/-- The secret version that a value names, which is the latest one unless the value says more. -/
def Names (v name : String) : Prop :=
  ∃ r, v = "gsm:" ++ r ∧
    (("/versions/".toList <:+: Text.trim r.toList ∧ name = Text.trimString r) ∨
      (¬"/versions/".toList <:+: Text.trim r.toList ∧
        ∃ stem, IsStem stem (Text.trimString r) ∧ name = stem ++ "/versions/latest"))

lemma eq_versionName_iff {r name : String} :
    versionName (Text.trimString r) = name ↔
      ("/versions/".toList <:+: Text.trim r.toList ∧ name = Text.trimString r) ∨
        (¬"/versions/".toList <:+: Text.trim r.toList ∧
          ∃ stem, IsStem stem (Text.trimString r) ∧ name = stem ++ "/versions/latest") := by
  have hchars : (Text.trimString r).toList = Text.trim r.toList := String.toList_ofList
  simp only [isStem_iff, exists_eq_left, ← hchars, ← occursIn_eq_true_iff]
  rw [versionName]
  split
  · next h =>
    simp only [h, true_and, not_true_eq_false, false_and, or_false]
    exact eq_comm
  · next h =>
    simp only [h, Bool.false_eq_true, false_and, false_or, true_and, not_false_eq_true]
    exact eq_comm

lemma marker_append_iff {v : String} {r : List Char} :
    marker ++ r = v.toList ↔ v = "gsm:" ++ String.ofList r := by
  have hchars : ("gsm:" ++ String.ofList r).toList = marker ++ r := by
    rw [String.toList_append, String.toList_ofList, String.toList_ofList]
    rfl
  rw [← String.toList_inj, hchars]
  exact eq_comm

/-- A value is a reference if it begins with the marker. -/
theorem reference?_eq_some_iff {v name : String} : reference? v = some name ↔ Names v name := by
  have hname (r : List Char) : versionName (String.ofList (Text.trim r)) = name ↔
      versionName (Text.trimString (String.ofList r)) = name := by
    rw [Text.trimString, String.toList_ofList]
  rw [reference?]
  constructor
  · intro h
    split_ifs at h with hmarker
    obtain ⟨r, hr⟩ := List.isPrefixOf_iff_prefix.mp hmarker
    rw [← hr, List.drop_left] at h
    exact ⟨_, marker_append_iff.mp hr,
      eq_versionName_iff.mp ((hname r).mp (Option.some.inj h))⟩
  · rintro ⟨r, rfl, hr⟩
    have hv : marker ++ r.toList = ("gsm:" ++ r).toList :=
      marker_append_iff.mpr (by rw [String.ofList_toList])
    rw [← hv, List.drop_left, if_pos (List.isPrefixOf_iff_prefix.mpr (List.prefix_append _ _)),
      (hname r.toList).mpr (by rw [String.ofList_toList]; exact eq_versionName_iff.mpr hr)]

lemma reference?_eq_none_iff {v : String} : reference? v = none ↔ ¬"gsm:".toList <+: v.toList := by
  rw [reference?, ← List.isPrefixOf_iff_prefix]
  exact ite_eq_right_iff.trans (by simp [marker])

/-- A value that begins with the marker names one secret version. -/
lemma exists_names_of_prefix {v : String} (h : "gsm:".toList <+: v.toList) :
    ∃ name, reference? v = some name ∧ ∀ n, Names v n ↔ n = name := by
  obtain ⟨name, hname⟩ := Option.ne_none_iff_exists'.mp fun hnone =>
    reference?_eq_none_iff.mp hnone h
  refine ⟨name, hname, fun n => ?_⟩
  rw [← reference?_eq_some_iff, hname, Option.some_inj]
  exact eq_comm

lemma resolve_of_plain {v : String} (h : reference? v = none) (source : SecretSource)
    (asked : List String) : resolve source.access v asked = (.ok v, asked) := by
  rw [resolve, h]
  rfl

lemma resolve_of_reference {v name : String} (h : reference? v = some name)
    (source : SecretSource) (asked : List String) :
    resolve source.access v asked =
      ((source asked name).mapFailure (⟨name, ·⟩), asked ++ [name]) := by
  rw [resolve, h]
  rfl

end Secret

namespace Settings

variable {s : Settings} {f g : Field} {v : String}

lemma get?_set_self (s : Settings) (f : Field) (v : String) : (s.set f v).get? f = some v := by
  cases f <;> rfl

lemma get?_set_of_ne (h : g ≠ f) : (s.set f v).get? g = s.get? g := by
  cases f <;> cases g <;> first | rfl | exact absurd rfl h

lemma set_of_get? (h : s.get? f = some v) : s.set f v = s := by
  cases f <;> cases s <;> simp_all [get?, set]

lemma maxBodyBytes_set : (s.set f v).maxBodyBytes = s.maxBodyBytes := by
  cases f <;> rfl

/-- The secret version that a setting refers to. -/
def secret? (s : Settings) (f : Field) : Option String := (s.get? f).bind Secret.reference?

/-- The secret versions that some settings refer to, in order. -/
def secretsOf (s : Settings) (fields : List Field) : List String := fields.filterMap s.secret?

lemma secret?_eq_some_iff {name : String} :
    s.secret? f = some name ↔ ∃ v, s.get? f = some v ∧ Secret.Names v name := by
  simp only [secret?, Option.bind_eq_some_iff, Secret.reference?_eq_some_iff]

lemma secret?_eq_none (h : ∀ v, s.get? f = some v → ¬"gsm:".toList <+: v.toList) :
    s.secret? f = none :=
  Option.bind_eq_none_iff.mpr fun v hv => Secret.reference?_eq_none_iff.mpr (h v hv)

lemma mem_resolvedFields (h : f ≠ .project) : f ∈ resolvedFields := by
  cases f <;> first | exact absurd rfl h | decide

section Resolving

variable {source : SecretSource} {asked : List String} {rest : List Field}

lemma resolveFields_of_none (h : s.secret? f = none) :
    resolveFields source.access (f :: rest) s asked =
      resolveFields source.access rest s asked := by
  rw [resolveFields]
  cases hv : s.get? f with
  | none => rfl
  | some v =>
    have hplain : Secret.reference? v = none := by rwa [secret?, hv] at h
    dsimp only [bind, StateT.bind]
    rw [Secret.resolve_of_plain hplain]
    dsimp only
    rw [set_of_get? hv]

lemma resolveFields_of_ok {name payload : String} (h : s.secret? f = some name)
    (hpayload : source asked name = .ok payload) :
    resolveFields source.access (f :: rest) s asked =
      resolveFields source.access rest (s.set f payload) (asked ++ [name]) := by
  obtain ⟨v, hv, href⟩ := Option.bind_eq_some_iff.mp h
  rw [resolveFields, hv]
  dsimp only [bind, StateT.bind]
  rw [Secret.resolve_of_reference href, hpayload]
  rfl

lemma resolveFields_of_error {name : String} {e : Fault SecretError} (h : s.secret? f = some name)
    (he : source asked name = .error e) :
    resolveFields source.access (f :: rest) s asked =
      ((Attempt.mapFailure (⟨name, ·⟩) (.error e), s), asked ++ [name]) := by
  obtain ⟨v, hv, href⟩ := Option.bind_eq_some_iff.mp h
  rw [resolveFields, hv]
  dsimp only [bind, StateT.bind]
  rw [Secret.resolve_of_reference href, he]
  cases e <;> rfl

lemma secretsOf_cons (s : Settings) (f : Field) (fields : List Field) :
    s.secretsOf (f :: fields) = (s.secret? f).toList ++ s.secretsOf fields := by
  rw [secretsOf, List.filterMap_cons]
  cases s.secret? f <;> rfl

/-- What the settings are not asked for stays as it is, whether or not all secrets can be read. -/
lemma resolveFields_frame (source : SecretSource) (fields : List Field) (s : Settings)
    (asked : List String) :
    let s' := (resolveFields source.access fields s asked).1.2
    s'.maxBodyBytes = s.maxBodyBytes ∧ ∀ g ∉ fields, s'.get? g = s.get? g := by
  induction fields generalizing s asked with
  | nil => exact ⟨rfl, fun g _ => rfl⟩
  | cons f rest ih =>
    cases hsecret : s.secret? f with
    | none =>
      rw [resolveFields_of_none hsecret]
      exact ⟨(ih s asked).1, fun g hg => (ih s asked).2 g (List.not_mem_of_not_mem_cons hg)⟩
    | some name =>
      cases hanswer : source asked name with
      | error e =>
        rw [resolveFields_of_error hsecret hanswer]
        exact ⟨rfl, fun g _ => rfl⟩
      | ok payload =>
        rw [resolveFields_of_ok hsecret hanswer]
        obtain ⟨hbytes, hother⟩ := ih (s.set f payload) (asked ++ [name])
        refine ⟨hbytes.trans maxBodyBytes_set, fun g hg => ?_⟩
        rw [hother g (List.not_mem_of_not_mem_cons hg),
          get?_set_of_ne (List.ne_of_not_mem_cons hg)]

end Resolving

/-- The answer for a secret when its turn comes, that is after those of the fields before it. -/
def answerAfter (s : Settings) (source : SecretSource) (asked : List String)
    (before : List Field) (name : String) : Attempt SecretError String :=
  source (asked ++ s.secretsOf before) name

/-- The fields hold what they refer to. -/
structure Resolved (s : Settings) (source : SecretSource) (asked : List String)
    (fields : List Field) (s' : Settings) : Prop where
  plain : ∀ f ∈ fields, s.secret? f = none → s'.get? f = s.get? f
  reference : ∀ before f after name, fields = before ++ f :: after → s.secret? f = some name →
    ∃ payload, s.answerAfter source asked before name = .ok payload ∧ s'.get? f = some payload

/-- A field refers to a secret that cannot be read, and this is the fault of the whole. -/
def Unread (s : Settings) (source : SecretSource) (asked : List String) (fields : List Field)
    (fault : Attempt SecretFailure Unit) : Prop :=
  ∃ before f after name e, fields = before ++ f :: after ∧ s.secret? f = some name ∧
    s.answerAfter source asked before name = .error e ∧
    fault = .mapFailure (⟨name, ·⟩) (.error e)

section Runs

variable {source : SecretSource} {asked : List String} {f : Field} {rest : List Field}
  {s s' : Settings}

lemma answerAfter_nil (name : String) : s.answerAfter source asked [] name = source asked name := by
  rw [answerAfter, secretsOf, List.filterMap_nil, List.append_nil]

lemma answerAfter_cons (before : List Field) (name : String) :
    s.answerAfter source asked (f :: before) name =
      s.answerAfter source (asked ++ (s.secret? f).toList) before name := by
  rw [answerAfter, answerAfter, secretsOf_cons, List.append_assoc]

lemma Resolved.cons (h : s.Resolved source (asked ++ (s.secret? f).toList) rest s')
    (hplain : s.secret? f = none → s'.get? f = s.get? f)
    (href : ∀ name, s.secret? f = some name →
      ∃ payload, source asked name = .ok payload ∧ s'.get? f = some payload) :
    s.Resolved source asked (f :: rest) s' := by
  constructor
  · rintro g hg
    rcases List.mem_cons.mp hg with rfl | hg
    · exact hplain
    · exact h.plain g hg
  · intro before g after name hsplit hsecret
    cases before with
    | nil =>
      obtain ⟨rfl, -⟩ := List.cons.inj hsplit
      rw [answerAfter_nil]
      exact href name hsecret
    | cons _ before =>
      obtain ⟨rfl, hrest⟩ := List.cons.inj hsplit
      rw [answerAfter_cons]
      exact h.reference before g after name hrest hsecret

lemma Unread.ne_ok {fields : List Field} {fault : Attempt SecretFailure Unit}
    (h : s.Unread source asked fields fault) : fault ≠ .ok () := by
  obtain ⟨_, _, _, _, e, -, -, -, rfl⟩ := h
  cases e <;> exact fun h => nomatch h

lemma Unread.cons {fault : Attempt SecretFailure Unit}
    (h : s.Unread source (asked ++ (s.secret? f).toList) rest fault) :
    s.Unread source asked (f :: rest) fault := by
  obtain ⟨before, g, after, name, e, rfl, hsecret, hanswer, hfault⟩ := h
  exact ⟨f :: before, g, after, name, e, rfl, hsecret, by rwa [answerAfter_cons], hfault⟩

/-- The fields that are still to come are as they were at first, so that a replaced value is not
looked at again. -/
lemma resolveFields_run (s : Settings) (source : SecretSource) {fields : List Field}
    (hnodup : fields.Nodup) (s₁ : Settings) (asked : List String)
    (hrest : ∀ g ∈ fields, s₁.get? g = s.get? g) :
    let r := resolveFields source.access fields s₁ asked
    (r.1.1 = .ok () ∧ r.2 = asked ++ s.secretsOf fields ∧ s.Resolved source asked fields r.1.2) ∨
      s.Unread source asked fields r.1.1 := by
  induction fields generalizing s₁ asked with
  | nil =>
    refine .inl ⟨rfl, (List.append_nil _).symm, fun f hf => absurd hf List.not_mem_nil, ?_⟩
    exact fun before f after _ hsplit => absurd hsplit.symm (by simp)
  | cons f rest ih =>
    obtain ⟨hf, hnodup⟩ := List.nodup_cons.mp hnodup
    have hsame : s₁.secret? f = s.secret? f := by
      rw [secret?, secret?, hrest f List.mem_cons_self]
    have hlater : ∀ g ∈ rest, s₁.get? g = s.get? g :=
      fun g hg => hrest g (List.mem_cons_of_mem f hg)
    have hfirst : s₁.get? f = s.get? f := hrest f List.mem_cons_self
    rw [secretsOf_cons, ← List.append_assoc]
    cases hsecret : s.secret? f with
    | none =>
      have hasked : asked ++ (s.secret? f).toList = asked := by
        rw [hsecret, Option.toList_none, List.append_nil]
      have hframe := (resolveFields_frame source rest s₁ asked).2 f hf
      rw [resolveFields_of_none (hsame.trans hsecret), ← hsecret, hasked]
      obtain ⟨hok, hlog, hres⟩ | hunread := ih hnodup s₁ asked hlater
      · refine .inl ⟨hok, hlog, .cons (hasked.symm ▸ hres) (fun _ => hframe.trans hfirst) ?_⟩
        exact fun name hname => absurd (hsecret.symm.trans hname) (by simp)
      · exact .inr (.cons (hasked.symm ▸ hunread))
    | some name =>
      have hasked : asked ++ (s.secret? f).toList = asked ++ [name] := by
        rw [hsecret, Option.toList_some]
      cases hanswer : source asked name with
      | error e =>
        rw [resolveFields_of_error (hsame.trans hsecret) hanswer]
        exact .inr ⟨[], f, rest, name, e, rfl, hsecret, (answerAfter_nil name).trans hanswer, rfl⟩
      | ok payload =>
        have hframe := (resolveFields_frame source rest (s₁.set f payload) (asked ++ [name])).2 f hf
        rw [get?_set_self] at hframe
        rw [resolveFields_of_ok (hsame.trans hsecret) hanswer, ← hsecret, hasked]
        have hset : ∀ g ∈ rest, (s₁.set f payload).get? g = s.get? g := fun g hg => by
          rw [get?_set_of_ne (ne_of_mem_of_not_mem hg hf), hlater g hg]
        obtain ⟨hok, hlog, hres⟩ | hunread := ih hnodup (s₁.set f payload) (asked ++ [name]) hset
        · refine .inl ⟨hok, hlog, .cons (hasked.symm ▸ hres) ?_ ?_⟩
          · exact fun hnone => absurd (hsecret.symm.trans hnone) (by simp)
          · intro n hn
            obtain rfl := Option.some.inj (hsecret.symm.trans hn)
            exact ⟨payload, hanswer, hframe⟩
        · exact .inr (.cons (hasked.symm ▸ hunread))

lemma resolveFields_of_eq_ok (source : SecretSource) {fields : List Field} (hnodup : fields.Nodup)
    (h : (resolveFields source.access fields s asked).1.1 = .ok ()) :
    (resolveFields source.access fields s asked).2 = asked ++ s.secretsOf fields ∧
      s.Resolved source asked fields (resolveFields source.access fields s asked).1.2 := by
  obtain ⟨-, hrun⟩ | hunread := resolveFields_run s source hnodup s asked fun _ _ => rfl
  · exact hrun
  · exact absurd h hunread.ne_ok

lemma resolveFields_eq_ok_iff (source : SecretSource) {fields : List Field}
    (hnodup : fields.Nodup) :
    (resolveFields source.access fields s asked).1.1 = .ok () ↔
      ∀ before f after name, fields = before ++ f :: after → s.secret? f = some name →
        ∃ payload, s.answerAfter source asked before name = .ok payload := by
  constructor
  · intro h before f after name hsplit hsecret
    obtain ⟨payload, hanswer, -⟩ :=
      (resolveFields_of_eq_ok source hnodup h).2.reference before f after name hsplit hsecret
    exact ⟨payload, hanswer⟩
  · intro hall
    obtain ⟨hok, -⟩ | ⟨before, f, after, name, e, hsplit, hsecret, hanswer, -⟩ :=
      resolveFields_run s source hnodup s asked fun _ _ => rfl
    · exact hok
    · obtain ⟨payload, hpayload⟩ := hall before f after name hsplit hsecret
      exact absurd (hanswer.symm.trans hpayload) fun h => nomatch h

end Runs

/-- All string settings but the project are replaced by what they refer to. The run fails if and
only if one of these secrets cannot be read, and the fault is that of such a secret. -/
theorem resolve_replaces (s : Settings) (source : SecretSource) :
    let r := s.resolve source.access []
    r.1.2.maxBodyBytes = s.maxBodyBytes ∧ r.1.2.project = s.project ∧
    (r.1.1 = .ok () →
      r.2 = s.secretsOf resolvedFields ∧
      ∀ f, f ≠ .project →
        ((∀ v, s.get? f = some v → ¬"gsm:".toList <+: v.toList) → r.1.2.get? f = s.get? f) ∧
        ∀ v, s.get? f = some v → "gsm:".toList <+: v.toList → ∃ name payload before after,
          (∀ n, Secret.Names v n ↔ n = name) ∧ resolvedFields = before ++ f :: after ∧
          s.answerAfter source [] before name = .ok payload ∧ r.1.2.get? f = some payload) ∧
    (r.1.1 = .ok () ↔ ∀ before f after v name, resolvedFields = before ++ f :: after →
      s.get? f = some v → Secret.Names v name →
      ∃ payload, s.answerAfter source [] before name = .ok payload) ∧
    (r.1.1 ≠ .ok () → s.Unread source [] resolvedFields r.1.1) := by
  intro r
  have hnodup : resolvedFields.Nodup := by decide
  obtain ⟨hbytes, hother⟩ := resolveFields_frame source resolvedFields s []
  refine ⟨hbytes, hother .project (by decide), fun hok => ?_, ?_, fun hfail => ?_⟩
  · obtain ⟨hlog, hres⟩ := resolveFields_of_eq_ok source hnodup hok
    refine ⟨hlog, fun f hf => ⟨fun hplain => ?_, fun v hv hprefix => ?_⟩⟩
    · exact hres.plain f (mem_resolvedFields hf) (secret?_eq_none hplain)
    · obtain ⟨name, href, hnames⟩ := Secret.exists_names_of_prefix hprefix
      have hsecret : s.secret? f = some name := by rw [secret?, hv, Option.bind_some, href]
      obtain ⟨before, after, hsplit⟩ := List.append_of_mem (mem_resolvedFields hf)
      obtain ⟨payload, hanswer, hvalue⟩ := hres.reference before f after name hsplit hsecret
      exact ⟨name, payload, before, after, hnames, hsplit, hanswer, hvalue⟩
  · refine (resolveFields_eq_ok_iff source hnodup).trans ⟨?_, ?_⟩
    · intro h before f after v name hsplit hv hname
      exact h before f after name hsplit (secret?_eq_some_iff.mpr ⟨v, hv, hname⟩)
    · intro h before f after name hsplit hsecret
      obtain ⟨v, hv, hname⟩ := secret?_eq_some_iff.mp hsecret
      exact h before f after v name hsplit hv hname
  · obtain ⟨hok, -⟩ | hunread := resolveFields_run s source hnodup s [] fun _ _ => rfl
    · exact absurd hok hfail
    · exact hunread

/-- The version that the project refers to is not looked up. -/
theorem project_reference_stays :
    let s : Settings :=
      { merge .empty .empty with project := some "gsm:projects/p/secrets/x" }
    let source : SecretSource :=
      fun _ => Secret.ofTable [("projects/p/secrets/x/versions/latest", "proj")]
    Secret.Names "gsm:projects/p/secrets/x" "projects/p/secrets/x/versions/latest" ∧
      source [] "projects/p/secrets/x/versions/latest" = .ok "proj" ∧
      s.resolve source.access [] = ((.ok (), s), []) := by
  exact ⟨Secret.reference?_eq_some_iff.mp (by decide +kernel), rfl, rfl⟩

end Settings

end GatedRelay
