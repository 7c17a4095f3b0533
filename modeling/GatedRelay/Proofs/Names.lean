import GatedRelay.Proofs.Compiling
import Mathlib.Data.List.Basic
import Mathlib.Data.List.TakeWhile

/-!
# Names in expressions

Each name in an expression that was read is a word of the text, so it has no point in it. The parsers
hand on the names of their tokens as they are.
-/

namespace GatedRelay.Expr

open Attempt

variable {good : String → Prop}

/-- Whether all variables, fields and functions that a term names are good. -/
inductive Term.Names (good : String → Prop) : Term → Prop
  | literal (a : Literal) : Names good (.literal a)
  | ident {name : String} (hn : good name) : Names good (.ident name)
  | relation {op : Relation} {l r : Term} (hl : Names good l) (hr : Names good r) :
      Names good (.relation op l r)
  | arithmetic {op : Arithmetic} {l r : Term} (hl : Names good l) (hr : Names good r) :
      Names good (.arithmetic op l r)
  | conj {l r : Term} (hl : Names good l) (hr : Names good r) : Names good (.conj l r)
  | disj {l r : Term} (hl : Names good l) (hr : Names good r) : Names good (.disj l r)
  | unary {op : UnaryOp} {e : Term} (he : Names good e) : Names good (.unary op e)
  | ternary {c t e : Term} (hc : Names good c) (ht : Names good t) (he : Names good e) :
      Names good (.ternary c t e)
  | list {items : List Term} (hi : ∀ e ∈ items, Names good e) : Names good (.list items)
  | map {entries : List (Term × Term)} (hk : ∀ p ∈ entries, Names good p.1)
      (hv : ∀ p ∈ entries, Names good p.2) : Names good (.map entries)
  | select {target : Term} {name : String} (ht : Names good target) (hn : good name) :
      Names good (.select target name)
  | index {target i : Term} (ht : Names good target) (hi : Names good i) :
      Names good (.index target i)
  | fields {target : Term} {entries : List (String × Term)} (ht : Names good target)
      (hk : ∀ p ∈ entries, good p.1) (hv : ∀ p ∈ entries, Names good p.2) :
      Names good (.fields target entries)
  | call {name : String} {args : List Term} (hn : good name) (ha : ∀ e ∈ args, Names good e) :
      Names good (.call name args)
  | method {target : Term} {name : String} {args : List Term} (ht : Names good target)
      (hn : good name) (ha : ∀ e ∈ args, Names good e) : Names good (.method target name args)

/-- Whether a token is good if it is a name. -/
def Token.Names (good : String → Prop) : Token → Prop
  | .ident n => good (String.ofList n)
  | _ => True

/-- From good tokens a parser makes something good and leaves good tokens. -/
def Yields {α : Type} (good : String → Prop) (P : α → Prop) (p : Parser α) : Prop :=
  ∀ ts a rest, (∀ t ∈ ts, t.Names good) → p ts = .ok (a, rest) → P a ∧ ∀ t ∈ rest, t.Names good

lemma Yields.of_bind {α β : Type} {P : α → Prop} {p : Parser α} (hp : Yields good P p)
    {ts : List Token} (hts : ∀ t ∈ ts, t.Names good) {f : α × List Token → Except Nat β} {b : β}
    (h : p ts >>= f = .ok b) :
    ∃ a rest, P a ∧ (∀ t ∈ rest, t.Names good) ∧ f (a, rest) = .ok b := by
  obtain ⟨⟨a, rest⟩, ha, h⟩ := bind_eq_ok_iff.mp h
  obtain ⟨hP, hrest⟩ := hp _ _ _ hts ha
  exact ⟨a, rest, hP, hrest, h⟩

/-- From two good operands an operator makes something good. -/
def KeepsNames (good : String → Prop) (op? : Token → Option (Term → Term → Term)) : Prop :=
  ∀ t f l r, op? t = some f → l.Names good → r.Names good → (f l r).Names good

namespace Parser

variable {nested : Parser Term}

lemma expect_yields (s : Symbol) : Yields good (fun _ => True) (expect s) := by
  intro ts a rest hts h
  unfold expect at h
  split at h
  · split at h
    · cases h
      exact ⟨trivial, List.forall_mem_of_forall_mem_cons hts⟩
    · cases h
  · cases h

lemma name_yields : Yields good good name := by
  intro ts a rest hts h
  unfold name at h
  split at h
  · cases h
    obtain ⟨hn, hrest⟩ := List.forall_mem_cons.mp hts
    exact ⟨hn, hrest⟩
  · cases h

lemma commaList_yields {α : Type} {P : α → Prop} {item : Parser α} (hi : Yields good P item)
    (close : Symbol) (fuel : Nat) :
    Yields good (fun xs => ∀ x ∈ xs, P x) (commaList item close fuel) := by
  induction fuel with
  | zero =>
    intro ts a rest hts h
    cases h
  | succ fuel ih =>
    intro ts a rest hts h
    unfold commaList at h
    split at h
    · next hc =>
      cases h
      exact ⟨List.forall_mem_nil _, (expect_yields close _ _ _ hts hc).2⟩
    · obtain ⟨x, ts₁, hPx, hts₁, h⟩ := hi.of_bind hts h
      dsimp only at h
      split at h
      · next hc =>
        have hts₂ := (expect_yields .comma _ _ _ hts₁ hc).2
        obtain ⟨xs, ts₃, hPxs, hts₃, h⟩ := ih.of_bind hts₂ h
        cases h
        exact ⟨List.forall_mem_cons.mpr ⟨hPx, hPxs⟩, hts₃⟩
      · obtain ⟨⟨⟩, ts₂, -, hts₂, h⟩ := (expect_yields close).of_bind hts₁ h
        cases h
        exact ⟨List.forall_mem_singleton.mpr hPx, hts₂⟩

lemma keyed_yields {α β : Type} {P : α → Prop} {Q : β → Prop} {key : Parser α} {value : Parser β}
    (hk : Yields good P key) (hv : Yields good Q value) :
    Yields good (fun p => P p.1 ∧ Q p.2) (keyed key value) := by
  intro ts a rest hts h
  obtain ⟨k, ts₁, hPk, hts₁, h⟩ := hk.of_bind hts h
  obtain ⟨⟨⟩, ts₂, -, hts₂, h⟩ := (expect_yields .colon).of_bind hts₁ h
  obtain ⟨v, ts₃, hQv, hts₃, h⟩ := hv.of_bind hts₂ h
  cases h
  exact ⟨⟨hPk, hQv⟩, hts₃⟩

lemma leftward_yields {op? : Token → Option (Term → Term → Term)} {operand : Parser Term}
    (hop : KeepsNames good op?) (ho : Yields good (Term.Names good) operand) (fuel : Nat)
    {acc : Term} (hacc : acc.Names good) :
    Yields good (Term.Names good) (leftward op? operand fuel acc) := by
  induction fuel generalizing acc with
  | zero =>
    intro ts a rest hts h
    cases h
  | succ fuel ih =>
    intro ts a rest hts h
    unfold leftward at h
    split at h
    · cases h
      exact ⟨hacc, hts⟩
    · split at h
      · cases h
        exact ⟨hacc, hts⟩
      · next f hf =>
        obtain ⟨r, ts₁, hnr, hts₁, h⟩ := ho.of_bind (List.forall_mem_of_forall_mem_cons hts) h
        exact ih (hop _ _ _ _ hf hacc hnr) _ _ _ hts₁ h

lemma binary_yields {op? : Token → Option (Term → Term → Term)} {operand : Parser Term}
    (hop : KeepsNames good op?) (ho : Yields good (Term.Names good) operand) :
    Yields good (Term.Names good) (binary op? operand) := by
  intro ts a rest hts h
  obtain ⟨l, ts₁, hnl, hts₁, h⟩ := ho.of_bind hts h
  exact leftward_yields hop ho _ hnl _ _ _ hts₁ h

lemma arguments?_yields (hn : Yields good (Term.Names good) nested) :
    Yields good (fun args? => ∀ args ∈ args?, ∀ e ∈ args, e.Names good) (arguments? nested) := by
  intro ts a rest hts h
  unfold arguments? at h
  split at h
  · have htail := List.forall_mem_of_forall_mem_cons hts
    obtain ⟨args, ts₁, hargs, hts₁, h⟩ := (commaList_yields hn _ _).of_bind htail h
    cases h
    refine ⟨?_, hts₁⟩
    rintro _ ⟨⟩
    exact hargs
  · cases h
    refine ⟨?_, hts⟩
    rintro _ ⟨⟩

lemma named_yields (hn : Yields good (Term.Names good) nested) :
    Yields good (Term.Names good) (named nested) := by
  intro ts a rest hts h
  obtain ⟨n, ts₁, hgood, hts₁, h⟩ := name_yields.of_bind hts h
  obtain ⟨args?, ts₂, hargs, hts₂, h⟩ := (arguments?_yields hn).of_bind hts₁ h
  cases args? with
  | some args =>
    cases h
    exact ⟨.call hgood (hargs args rfl), hts₂⟩
  | none =>
    cases h
    exact ⟨.ident hgood, hts₂⟩

lemma primary_yields (hn : Yields good (Term.Names good) nested) :
    Yields good (Term.Names good) (primary nested) := by
  intro ts a rest hts h
  unfold primary at h
  split at h
  · cases h
  · have htail := List.forall_mem_of_forall_mem_cons hts
    split at h
    · cases h
      exact ⟨.literal _, htail⟩
    · split at h
      · exact named_yields hn _ _ _ hts h
      · exact named_yields hn _ _ _ htail h
      · obtain ⟨items, ts₁, hitems, hts₁, h⟩ := (commaList_yields hn _ _).of_bind htail h
        cases h
        exact ⟨.list hitems, hts₁⟩
      · have hlist := commaList_yields (keyed_yields hn hn)
        obtain ⟨entries, ts₁, hentries, hts₁, h⟩ := (hlist _ _).of_bind htail h
        cases h
        exact ⟨.map (fun p hp => (hentries p hp).1) (fun p hp => (hentries p hp).2), hts₁⟩
      · obtain ⟨e, ts₁, hne, hts₁, h⟩ := hn.of_bind htail h
        obtain ⟨⟨⟩, ts₂, -, hts₂, h⟩ := (expect_yields .parenClose).of_bind hts₁ h
        cases h
        exact ⟨hne, hts₂⟩
      · cases h

lemma members_yields (hn : Yields good (Term.Names good) nested) (fuel : Nat) {target : Term}
    (ht : target.Names good) : Yields good (Term.Names good) (members nested fuel target) := by
  induction fuel generalizing target with
  | zero =>
    intro ts a rest hts h
    cases h
  | succ fuel ih =>
    intro ts a rest hts h
    unfold members at h
    split at h
    · have htail := List.forall_mem_of_forall_mem_cons hts
      obtain ⟨n, ts₁, hgood, hts₁, h⟩ := name_yields.of_bind htail h
      obtain ⟨args?, ts₂, hargs, hts₂, h⟩ := (arguments?_yields hn).of_bind hts₁ h
      cases args? with
      | some args => exact ih (.method ht hgood (hargs args rfl)) _ _ _ hts₂ h
      | none => exact ih (.select ht hgood) _ _ _ hts₂ h
    · have htail := List.forall_mem_of_forall_mem_cons hts
      obtain ⟨i, ts₁, hni, hts₁, h⟩ := hn.of_bind htail h
      obtain ⟨⟨⟩, ts₂, -, hts₂, h⟩ := (expect_yields .bracketClose).of_bind hts₁ h
      exact ih (.index ht hni) _ _ _ hts₂ h
    · have htail := List.forall_mem_of_forall_mem_cons hts
      have hlist := commaList_yields (keyed_yields name_yields hn)
      obtain ⟨entries, ts₁, hentries, hts₁, h⟩ := (hlist _ _).of_bind htail h
      exact ih (.fields ht (fun p hp => (hentries p hp).1) (fun p hp => (hentries p hp).2)) _ _ _
        hts₁ h
    · cases h
      exact ⟨ht, hts⟩

lemma member_yields (hn : Yields good (Term.Names good) nested) :
    Yields good (Term.Names good) (member nested) := by
  intro ts a rest hts h
  obtain ⟨e, ts₁, hne, hts₁, h⟩ := (primary_yields hn).of_bind hts h
  exact members_yields hn _ hne _ _ _ hts₁ h

lemma unary_yields (hn : Yields good (Term.Names good) nested) :
    Yields good (Term.Names good) (unary nested) := by
  intro ts a rest hts h
  unfold unary at h
  split at h
  · cases h
  · split at h
    · have htail := List.forall_mem_of_forall_mem_cons hts
      obtain ⟨e, ts₁, hne, hts₁, h⟩ := (member_yields hn).of_bind htail h
      cases h
      exact ⟨.unary hne, hts₁⟩
    · exact member_yields hn _ _ _ hts h

lemma factorOp_keepsNames : KeepsNames good factorOp? := by
  intro t f l r hf hl hr
  unfold factorOp? at hf
  split at hf <;> cases hf <;> exact .arithmetic hl hr

lemma sumOp_keepsNames : KeepsNames good sumOp? := by
  intro t f l r hf hl hr
  unfold sumOp? at hf
  split at hf <;> cases hf <;> exact .arithmetic hl hr

lemma andOp_keepsNames : KeepsNames good andOp? := by
  intro t f l r hf hl hr
  unfold andOp? at hf
  split at hf <;> cases hf
  exact .conj hl hr

lemma orOp_keepsNames : KeepsNames good orOp? := by
  intro t f l r hf hl hr
  unfold orOp? at hf
  split at hf <;> cases hf
  exact .disj hl hr

lemma sum_yields (hn : Yields good (Term.Names good) nested) :
    Yields good (Term.Names good) (sum nested) :=
  binary_yields sumOp_keepsNames (binary_yields factorOp_keepsNames (unary_yields hn))

lemma comparison_yields (hn : Yields good (Term.Names good) nested) :
    Yields good (Term.Names good) (comparison nested) := by
  intro ts a rest hts h
  obtain ⟨l, ts₁, hnl, hts₁, h⟩ := (sum_yields hn).of_bind hts h
  dsimp only at h
  split at h
  · cases h
    exact ⟨hnl, hts₁⟩
  · split at h
    · cases h
      exact ⟨hnl, hts₁⟩
    · have htail := List.forall_mem_of_forall_mem_cons hts₁
      obtain ⟨r, ts₂, hnr, hts₂, h⟩ := (sum_yields hn).of_bind htail h
      cases h
      exact ⟨.relation hnl hnr, hts₂⟩

lemma disjunction_yields (hn : Yields good (Term.Names good) nested) :
    Yields good (Term.Names good) (disjunction nested) :=
  binary_yields orOp_keepsNames (binary_yields andOp_keepsNames (comparison_yields hn))

lemma choice_yields (hn : Yields good (Term.Names good) nested) :
    Yields good (Term.Names good) (choice nested) := by
  intro ts a rest hts h
  obtain ⟨c, ts₁, hnc, hts₁, h⟩ := (disjunction_yields hn).of_bind hts h
  dsimp only at h
  split at h
  · have htail := List.forall_mem_of_forall_mem_cons hts₁
    obtain ⟨t, ts₂, hnt, hts₂, h⟩ := (disjunction_yields hn).of_bind htail h
    obtain ⟨⟨⟩, ts₃, -, hts₃, h⟩ := (expect_yields .colon).of_bind hts₂ h
    obtain ⟨e, ts₄, hne, hts₄, h⟩ := hn.of_bind hts₃ h
    cases h
    exact ⟨.ternary hnc hnt hne, hts₄⟩
  · cases h
    exact ⟨hnc, hts₁⟩

lemma expr_yields (depth : Nat) : Yields good (Term.Names good) (expr depth) := by
  induction depth with
  | zero =>
    intro ts a rest hts h
    cases h
  | succ depth ih => exact choice_yields ih

lemma names_of_whole {ts : List Token} {e : Term} (hts : ∀ t ∈ ts, t.Names good)
    (h : whole ts = .ok e) : e.Names good := by
  obtain ⟨e', rest, hne, -, h⟩ := (expr_yields _).of_bind hts h
  dsimp only at h
  split at h
  · cases h
    exact hne
  · cases h

end Parser

/-- Whether a name consists of letters, digits and underscores. -/
def IsWord (name : String) : Prop := ∀ c ∈ name.toList, Token.isWordPart c = true

namespace Token

lemma isWord_takeWhile (cs : List Char) : IsWord (String.ofList (cs.takeWhile isWordPart)) := by
  intro c hc
  rw [String.toList_ofList] at hc
  exact List.mem_takeWhile_imp hc

lemma names_ofWord (cs : List Char) : (ofWord (cs.takeWhile isWordPart)).Names IsWord := by
  unfold ofWord
  split_ifs
  · trivial
  · trivial
  · trivial
  · trivial
  · exact isWord_takeWhile cs

lemma names_wordAt {cs rest : List Char} {t : Token} (h : wordAt? cs = some (t, rest)) :
    t.Names IsWord := by
  unfold wordAt? at h
  split at h
  · cases h
  · split at h
    · cases h
      exact names_ofWord _
    · cases h

lemma names_quotedAt {cs rest : List Char} {t : Token} (h : quotedAt? cs = some (t, rest)) :
    t.Names IsWord := by
  unfold quotedAt? at h
  split at h
  · cases h
  · split at h
    · obtain ⟨p, -, hp⟩ := Option.map_eq_some_iff.mp h
      cases hp
      trivial
    · split at h
      · cases h
      · split_ifs at h
        · obtain ⟨p, -, hp⟩ := Option.map_eq_some_iff.mp h
          cases hp
          trivial
        · obtain ⟨p, -, hp⟩ := Option.map_eq_some_iff.mp h
          cases hp
          trivial

lemma names_numberAt {cs rest : List Char} {t : Token} (h : numberAt? cs = some (t, rest)) :
    t.Names IsWord := by
  unfold numberAt? at h
  -- The first match only takes the sign off, so it has a single case.
  split at h
  split at h
  · cases h
    trivial
  · split_ifs at h
    split at h
    · cases h
      trivial
    · dsimp only at h
      split_ifs at h
      split at h
      · cases h
        trivial
      · cases h
        trivial

lemma names_tokenAt {cs rest : List Char} {t : Token} (h : tokenAt? cs = some (t, rest)) :
    t.Names IsWord := by
  unfold tokenAt? at h
  split at h
  · next hq =>
    cases h
    exact names_quotedAt hq
  · split at h
    · next hw =>
      cases h
      exact names_wordAt hw
    · split at h
      · next hnum =>
        cases h
        exact names_numberAt hnum
      · obtain ⟨p, -, hp⟩ := Option.map_eq_some_iff.mp h
        cases hp
        trivial

lemma names_scan (fuel : Nat) (cs : List Char) : ∀ t ∈ scan fuel cs, t.Names IsWord := by
  induction fuel generalizing cs with
  | zero => exact List.forall_mem_nil _
  | succ fuel ih =>
    unfold scan
    split
    · exact List.forall_mem_nil _
    · split
      · exact ih _
      · split
        · exact ih _
        · split
          · next ht => exact List.forall_mem_cons.mpr ⟨names_tokenAt ht, ih _⟩
          · exact List.forall_mem_singleton.mpr trivial

end Token

/-- The names in an expression that was read are words. -/
theorem names_of_read {source : String} {e : Term} (h : Expr.read source = .parsed e) :
    e.Names IsWord := by
  obtain ⟨hw, -⟩ := read_eq_parsed_iff.mp h
  exact Parser.names_of_whole (Token.names_scan _ _) hw

lemma IsWord.dot_notMem {name : String} (h : IsWord name) : '.' ∉ name.toList := by
  intro hdot
  have hpart := h _ hdot
  revert hpart
  decide

end GatedRelay.Expr
