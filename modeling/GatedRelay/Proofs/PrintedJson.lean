import GatedRelay.Proofs.DoubleTexts

/-!
# Different values, different texts

No two JSON values have the same compact text, however deep they are and whatever numbers they hold:
a text fixes the value and, within a longer text, where the value ends.
-/

namespace GatedRelay.Json

@[elab_as_elim]
theorem inductionOn {motive : Json → Prop}
    (null : motive .null)
    (bool : ∀ b, motive (.bool b))
    (int : ∀ i, motive (.int i))
    (double : ∀ d, motive (.double d))
    (string : ∀ s, motive (.string s))
    (array : ∀ items, (∀ j ∈ items, motive j) → motive (.array items))
    (object : ∀ fields, (∀ f ∈ fields, motive f.2) → motive (.object fields))
    (j : Json) : motive j :=
  @Json.rec motive (fun items => ∀ j ∈ items, motive j) (fun fields => ∀ f ∈ fields, motive f.2)
    (fun f => motive f.2) null bool int double string array object
    (List.forall_mem_nil _) (fun _ _ hj hrest => List.forall_mem_cons.mpr ⟨hj, hrest⟩)
    (List.forall_mem_nil _) (fun _ _ hf hrest => List.forall_mem_cons.mpr ⟨hf, hrest⟩)
    (fun _ _ hj => hj) j

/-! ### Lists of texts -/

section Separated

variable {α : Type} (text : α → List Char)

/-- The text of a value fixes the value and where it ends. -/
def Known (a : α) : Prop :=
  ∀ ⦃b : α⦄ ⦃rest rest' : List Char⦄, Follows rest → Follows rest' →
    text a ++ rest = text b ++ rest' → a = b ∧ rest = rest'

/-- Texts with commas between them. -/
def separated : List α → List Char
  | [] => []
  | [a] => text a
  | a :: more => text a ++ ',' :: separated more

/-- What stands after the first of some texts up to the end of what holds them. -/
def afterFirst (close : Char) (rest : List Char) : List α → List Char
  | [] => close :: rest
  | a :: more => ',' :: (separated text (a :: more) ++ close :: rest)

lemma separated_cons_append (close : Char) (rest : List Char) (a : α) (more : List α) :
    separated text (a :: more) ++ close :: rest = text a ++ afterFirst text close rest more := by
  cases more with
  | nil => rfl
  | cons b more => exact List.append_assoc _ _ _

variable {text} {close : Char} (hclose : ∀ rest, Follows (close :: rest))

include hclose in
lemma follows_afterFirst (rest : List Char) (more : List α) :
    Follows (afterFirst text close rest more) := by
  cases more with
  | nil => exact hclose rest
  | cons a more => exact .comma _

variable (hcomma : close ≠ ',')
  (hopen : ∀ (a : α) (rest rest' : List Char), text a ++ rest ≠ close :: rest')

include hclose hcomma hopen in
lemma separated_append_inj {as bs : List α} (h : ∀ a ∈ as, Known text a) {rest rest' : List Char}
    (heq : separated text as ++ close :: rest = separated text bs ++ close :: rest') :
    as = bs ∧ rest = rest' := by
  induction as generalizing bs with
  | nil =>
    cases bs with
    | nil => exact ⟨rfl, (List.cons.inj heq).2⟩
    | cons b more' =>
      rw [separated_cons_append] at heq
      exact (hopen _ _ _ heq.symm).elim
  | cons a more ih =>
    obtain ⟨ha, hmore⟩ := List.forall_mem_cons.mp h
    rw [separated_cons_append] at heq
    cases bs with
    | nil => exact (hopen _ _ _ heq).elim
    | cons b more' =>
      rw [separated_cons_append] at heq
      obtain ⟨rfl, hafter⟩ := ha (follows_afterFirst hclose rest more)
        (follows_afterFirst hclose rest' more') heq
      cases more with
      | nil =>
        cases more' with
        | nil => exact ⟨rfl, (List.cons.inj hafter).2⟩
        | cons b' more' => exact absurd (List.cons.inj hafter).1 hcomma
      | cons a' more =>
        cases more' with
        | nil => exact absurd (List.cons.inj hafter).1.symm hcomma
        | cons b' more' =>
          obtain ⟨hsame, hrest⟩ := ih hmore (List.cons.inj hafter).2
          exact ⟨congrArg (List.cons a) hsame, hrest⟩

end Separated

lemma printItems_eq_separated (js : List Json) : printItems js = separated print js := by
  induction js with
  | nil => rfl
  | cons j more ih =>
    cases more with
    | nil => rfl
    | cons k more => rw [printItems_cons_cons, ih]; rfl

/-- A field's name and value. -/
def printField (f : String × Json) : List Char := printString f.1 ++ ':' :: print f.2

lemma printFields_eq_separated (fs : List (String × Json)) :
    printFields fs = separated printField fs := by
  induction fs with
  | nil => rfl
  | cons f more ih =>
    cases more with
    | nil => rfl
    | cons g more => rw [printFields_cons_cons, ih]; rfl

/-! ### The first characters -/

inductive Kind
  | null
  | bool (b : Bool)
  | number
  | string
  | array
  | object

/-- The kinds that are told apart by the first characters of their texts. -/
def kind : Json → Kind
  | null => .null
  | bool b => .bool b
  | int _ => .number
  | double _ => .number
  | string _ => .string
  | array _ => .array
  | object _ => .object

def kindOf? (c : Char) : Option Kind :=
  if Numeral.isDigit c then some .number
  else
    match c with
    | '-' => some .number
    | 'n' => some .null
    | 't' => some (.bool true)
    | 'f' => some (.bool false)
    | '"' => some .string
    | '[' => some .array
    | '{' => some .object
    | _ => none

lemma kindOf?_signText {c : Char} (hc : Numeral.isDigit c = true) (negative : Bool)
    (cs : List Char) :
    ((Numeral.signText negative ++ c :: cs).head?.bind kindOf?) = some .number := by
  cases negative with
  | true => rfl
  | false => exact if_pos hc

lemma kindOf?_print (j : Json) : (print j).head?.bind kindOf? = some j.kind := by
  cases j with
  | null => rfl
  | bool b => cases b <;> rfl
  | int i =>
    obtain ⟨c, cs, hcs, hc⟩ := Numeral.decimal_eq_cons i.val.natAbs
    rw [print, Numeral.decimalInt_eq, hcs]
    exact kindOf?_signText hc _ cs
  | double d =>
    obtain ⟨c, cs, hcs, hc⟩ := (Double.writesDecimal_unsignedText d.val).exists_cons
    rw [print, Double.render_eq d.2, hcs]
    exact kindOf?_signText hc _ cs
  | string s => rfl
  | array items => rfl
  | object fields => rfl

lemma kindOf?_print_append (j : Json) (rest : List Char) :
    (print j ++ rest).head?.bind kindOf? = some j.kind := by
  have hkind := kindOf?_print j
  cases h : print j with
  | nil =>
    rw [h] at hkind
    cases hkind
  | cons c cs =>
    rw [h] at hkind
    exact hkind

lemma kind_eq_of_print_append_eq {j k : Json} {rest rest' : List Char}
    (h : print j ++ rest = print k ++ rest') : j.kind = k.kind := by
  have hj := kindOf?_print_append j rest
  rw [h, kindOf?_print_append] at hj
  exact (Option.some.inj hj).symm

lemma print_append_ne {c : Char} (hc : kindOf? c = none) (j : Json) (rest rest' : List Char) :
    print j ++ rest ≠ c :: rest' := by
  intro h
  have hkind := kindOf?_print_append j rest
  rw [h] at hkind
  exact nomatch hc.symm.trans hkind

/-! ### The values -/

lemma printString_append_inj {s t : String} {rest rest' : List Char}
    (h : printString s ++ rest = printString t ++ rest') : s = t ∧ rest = rest' := by
  rw [printString_append, printString_append] at h
  have hread := stringBody_print s.toList rest
  rw [(List.cons.inj h).2, stringBody_print] at hread
  obtain ⟨hs, hrest⟩ := Prod.mk.inj (Option.some.inj hread)
  exact ⟨(String.toList_injective hs).symm, hrest.symm⟩

lemma known_printField {f : String × Json} (h : Known print f.2) : Known printField f := by
  intro g rest rest' hr hr' heq
  rw [printField, printField, List.append_assoc, List.append_assoc] at heq
  obtain ⟨hname, hafter⟩ := printString_append_inj heq
  obtain ⟨hvalue, hrest⟩ := h hr hr' (List.cons.inj hafter).2
  exact ⟨Prod.ext hname hvalue, hrest⟩

lemma decimalInt_append_inj {i i' : WideInt} {rest rest' : List Char} (hr : Follows rest)
    (hr' : Follows rest')
    (h : Numeral.decimalInt i.val ++ rest = Numeral.decimalInt i'.val ++ rest') :
    i = i' ∧ rest = rest' := by
  have hread := value_int 0 i hr
  rw [h, value_int 0 i' hr'] at hread
  obtain ⟨hvalue, hrest⟩ := Prod.mk.inj (Option.some.inj hread)
  exact ⟨(Json.int.inj hvalue).symm, hrest.symm⟩

lemma printItems_append_inj {js ks : List Json} (h : ∀ j ∈ js, Known print j)
    {rest rest' : List Char}
    (heq : printItems js ++ ']' :: rest = printItems ks ++ ']' :: rest') :
    js = ks ∧ rest = rest' := by
  rw [printItems_eq_separated, printItems_eq_separated] at heq
  exact separated_append_inj .bracket (by decide) (print_append_ne rfl) h heq

lemma printFields_append_inj {fs gs : List (String × Json)} (h : ∀ f ∈ fs, Known print f.2)
    {rest rest' : List Char}
    (heq : printFields fs ++ '}' :: rest = printFields gs ++ '}' :: rest') :
    fs = gs ∧ rest = rest' := by
  have hopen : ∀ (f : String × Json) (rest rest' : List Char),
      printField f ++ rest ≠ '}' :: rest' := fun f rest rest' h => nomatch (List.cons.inj h).1
  rw [printFields_eq_separated, printFields_eq_separated] at heq
  exact separated_append_inj .brace (by decide) hopen (fun f hf => known_printField (h f hf)) heq

lemma known_of_same_kind {j : Json}
    (h : ∀ (k : Json) (rest rest' : List Char), Follows rest → Follows rest' → j.kind = k.kind →
      print j ++ rest = print k ++ rest' → j = k ∧ rest = rest') : Known print j :=
  fun k rest rest' hr hr' heq => h k rest rest' hr hr' (kind_eq_of_print_append_eq heq) heq

/-- Texts are told apart kind by kind, and within a kind by the values inside. -/
theorem known_print (j : Json) : Known print j := by
  induction j using inductionOn with
  | null =>
    refine known_of_same_kind fun k rest rest' hr hr' hkind h => ?_
    cases k with
    | null => exact ⟨rfl, List.append_cancel_left h⟩
    | _ => cases hkind
  | bool b =>
    refine known_of_same_kind fun k rest rest' hr hr' hkind h => ?_
    cases k with
    | bool b' =>
      obtain rfl : b = b' := Kind.bool.inj hkind
      exact ⟨rfl, List.append_cancel_left h⟩
    | _ => cases hkind
  | int i =>
    refine known_of_same_kind fun k rest rest' hr hr' hkind h => ?_
    cases k with
    | int i' =>
      obtain ⟨rfl, hrest⟩ := decimalInt_append_inj hr hr' h
      exact ⟨rfl, hrest⟩
    | double d => exact (Double.render_append_ne hr' hr d.2 i.val h.symm).elim
    | _ => cases hkind
  | double d =>
    refine known_of_same_kind fun k rest rest' hr hr' hkind h => ?_
    cases k with
    | int i => exact (Double.render_append_ne hr hr' d.2 i.val h).elim
    | double d' =>
      obtain ⟨heq, hrest⟩ := Double.render_append_inj hr hr' d.2 d'.2 h
      exact ⟨congrArg Json.double (Subtype.ext heq), hrest⟩
    | _ => cases hkind
  | string s =>
    refine known_of_same_kind fun k rest rest' hr hr' hkind h => ?_
    cases k with
    | string s' =>
      obtain ⟨rfl, hrest⟩ := printString_append_inj h
      exact ⟨rfl, hrest⟩
    | _ => cases hkind
  | array items ih =>
    refine known_of_same_kind fun k rest rest' hr hr' hkind h => ?_
    cases k with
    | array items' =>
      rw [print_array_append, print_array_append] at h
      obtain ⟨rfl, hrest⟩ := printItems_append_inj ih (List.cons.inj h).2
      exact ⟨rfl, hrest⟩
    | _ => cases hkind
  | object fields ih =>
    refine known_of_same_kind fun k rest rest' hr hr' hkind h => ?_
    cases k with
    | object fields' =>
      rw [print_object_append, print_object_append] at h
      obtain ⟨rfl, hrest⟩ := printFields_append_inj ih (List.cons.inj h).2
      exact ⟨rfl, hrest⟩
    | _ => cases hkind

theorem print_injective : Function.Injective print := by
  intro j k h
  exact (known_print j .nil .nil (congrArg (· ++ []) h)).1

theorem bytes_injective : Function.Injective bytes := by
  intro j k h
  have hdecode := Utf8.decode?_encode (print j)
  have hbytes : Utf8.encode (print j) = Utf8.encode (print k) := h
  rw [hbytes, Utf8.decode?_encode] at hdecode
  exact print_injective (Option.some.inj hdecode).symm

end GatedRelay.Json
