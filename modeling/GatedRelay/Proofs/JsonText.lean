import GatedRelay.Json.Printer
import GatedRelay.Proofs.Encoding
import GatedRelay.Proofs.JsonOrder
import GatedRelay.Proofs.Numerals

/-!
# Reading back what was printed

The text of a JSON value is read as that value, if its fields are in order, its numbers are whole
and it is not nested too deep.
-/

namespace GatedRelay.Json

lemma escaped?_escapeLetter? {c letter : Char} (h : escapeLetter? c = some letter) :
    escaped? letter = some c ∧ letter ≠ 'u' := by
  unfold escapeLetter? at h
  split_ifs at h
  all_goals
    cases h
    subst c
    decide

/-- An escaped character is read as one letter after a backslash. -/
lemma stringBody_escape {letter c : Char} (hu : letter ≠ 'u') (h : escaped? letter = some c)
    (rest : List Char) : stringBody ('\\' :: letter :: rest) = cons? c (stringBody rest) := by
  rw [stringBody]
  · rw [h]
  · intro a b c' d rest' he
    exact (hu he).elim

lemma stringBody_plain {c : Char} (hq : c ≠ '"') (hb : c ≠ '\\') (hc : ¬c < ' ')
    (rest : List Char) : stringBody (c :: rest) = cons? c (stringBody rest) := by
  rw [stringBody]
  · rw [if_neg hc]
  · intro he
    exact hq he
  · intro _ _ _ _ _ he
    exact (hb he).elim
  · intro _ _ he
    exact (hb he).elim

lemma stringBody_unicode {u : Nat} (hu : u < 0x80) (rest : List Char) :
    stringBody ('\\' :: 'u' :: '0' :: '0' :: Numeral.digitChar (u / 16) ::
      Numeral.digitChar (u % 16) :: rest) = cons? (Char.ofNat u) (stringBody rest) := by
  have hunit : hexUnit? '0' '0' (Numeral.digitChar (u / 16)) (Numeral.digitChar (u % 16)) =
      some u := by
    have hz : Numeral.digitValue? '0' = some 0 := by decide
    rw [hexUnit?, hz, Numeral.digitValue?_digitChar (by omega),
      Numeral.digitValue?_digitChar (by omega)]
    dsimp only
    congr 1
    omega
  rw [stringBody, hunit]
  dsimp only
  rw [if_neg (by omega), if_neg (by omega)]

lemma stringBody_printChar (c : Char) (rest : List Char) :
    stringBody (printChar c ++ rest) = cons? c (stringBody rest) := by
  unfold printChar
  split
  · next letter h =>
    obtain ⟨he, hu⟩ := escaped?_escapeLetter? h
    exact stringBody_escape hu he rest
  · next h =>
    split
    · next hc =>
      have hlt : c.toNat < 0x80 := by
        have : c.toNat < ' '.toNat := hc
        have : ' '.toNat = 32 := rfl
        omega
      have hread := stringBody_unicode hlt rest
      rwa [Char.ofNat_toNat] at hread
    · next hc =>
      refine stringBody_plain ?_ ?_ hc rest
      · rintro rfl
        cases h
      · rintro rfl
        cases h

lemma stringBody_print (cs rest : List Char) :
    stringBody (cs.flatMap printChar ++ '"' :: rest) = some (cs, rest) := by
  induction cs with
  | nil => rw [List.flatMap_nil, List.nil_append, stringBody]
  | cons c cs ih =>
    rw [List.flatMap_cons, List.append_assoc, stringBody_printChar, ih, cons?, Option.map_some]

/-- What can follow a value within a text. -/
inductive Follows : List Char → Prop
  | nil : Follows []
  | comma (rest : List Char) : Follows (',' :: rest)
  | bracket (rest : List Char) : Follows (']' :: rest)
  | brace (rest : List Char) : Follows ('}' :: rest)

lemma digitRun_decimal (n : Nat) {rest : List Char} (hr : Follows rest) :
    digitRun (Numeral.decimal n ++ rest) = (Numeral.digits 10 (by decide) n, rest) := by
  have hstop : rest.takeWhile Numeral.isDigit = [] ∧ rest.dropWhile Numeral.isDigit = rest := by
    cases hr <;> exact ⟨rfl, rfl⟩
  have hdigits : ∀ c ∈ Numeral.decimal n, Numeral.isDigit c = true :=
    fun c hc => Numeral.isDigit_of_mem_decimal hc
  rw [digitRun, List.takeWhile_append_of_pos hdigits, List.dropWhile_append_of_pos hdigits,
    hstop.1, hstop.2, List.append_nil, Numeral.decimal, Numeral.write, List.map_map]
  congr 1
  refine (List.map_congr_left fun d hd => ?_).trans (List.map_id _)
  exact Numeral.toNat_digitChar (Numeral.lt_of_mem_digits _ hd)

lemma appendDigits_of_lt {n : Nat} {ds : List Nat}
    (h : Numeral.valueFrom 10 n ds < 0x10000000000000000) :
    appendDigits n ds = (Numeral.valueFrom 10 n ds, []) := by
  induction ds generalizing n with
  | nil => rfl
  | cons d ds ih =>
    have hle : n * 10 + d ≤ Numeral.valueFrom 10 n (d :: ds) :=
      Numeral.le_valueFrom (by decide) (n * 10 + d) ds
    rw [appendDigits, if_pos (by omega)]
    exact ih h

/-- Digits without a point or an exponent after them. -/
lemma number_decimal (negative : Bool) (n : Nat) {rest : List Char} (hr : Follows rest) :
    number negative (Numeral.decimal n ++ rest) =
      (wholeNumber? negative (Numeral.digits 10 (by decide) n)).map (·, rest) := by
  rw [number, digitRun_decimal n hr]
  dsimp only
  rw [if_neg]
  · cases hr <;> rfl
  · rcases Numeral.digits_eq_singleton_or (by decide : 2 ≤ 10) n with he | ⟨d, ds, he, hd⟩
    · simp [he]
    · simp [he, hd]

lemma ofInt?_val (i : WideInt) : WideInt.ofInt? i.val = some i := by
  rw [WideInt.ofInt?, dif_pos ⟨i.lower, i.upper⟩]

lemma appendDigits_digits {n : Nat} (hn : n < 0x10000000000000000) :
    appendDigits 0 (Numeral.digits 10 (by decide) n) = (n, []) := by
  have hv := Numeral.valueFrom_digits (by decide : 2 ≤ 10) n
  rw [appendDigits_of_lt (by rw [hv]; exact hn), hv]

lemma wholeNumber?_digits (i : WideInt) :
    wholeNumber? (decide (i.val < 0)) (Numeral.digits 10 (by decide) i.val.natAbs) =
      some (int i) := by
  have hlower := i.lower
  have hupper := i.upper
  rw [wholeNumber?, appendDigits_digits (by omega)]
  dsimp only
  rw [if_pos (by rfl)]
  by_cases hneg : i.val < 0
  · have habs : -(i.val.natAbs : Int) = i.val := by omega
    rw [if_neg (by simp [hneg]), if_pos (by omega), habs, ofInt?_val, Option.map_some]
  · have habs : (i.val.natAbs : Int) = i.val := by omega
    rw [if_pos (by simp [hneg]), habs, ofInt?_val, Option.map_some]

lemma value_digit {c : Char} (hc : Numeral.isDigit c = true) (depth : Nat) (rest : List Char) :
    value depth (c :: rest) = number false (c :: rest) := by
  have hne : ∀ d : Char, Numeral.isDigit d = false → c ≠ d := by
    rintro d hd rfl
    rw [hc] at hd
    cases hd
  rw [value.eq_def]
  dsimp only
  rw [if_neg (hne _ rfl), if_neg (hne _ rfl), if_neg (hne _ rfl), if_neg (hne _ rfl), if_pos hc]

lemma value_minus (depth : Nat) (rest : List Char) :
    value depth ('-' :: rest) = number true rest := by
  rw [value.eq_def]
  rfl

lemma value_int (depth : Nat) (i : WideInt) {rest : List Char} (hr : Follows rest) :
    value depth (Numeral.decimalInt i.val ++ rest) = some (int i, rest) := by
  have hread := number_decimal (decide (i.val < 0)) i.val.natAbs hr
  rw [wholeNumber?_digits, Option.map_some] at hread
  by_cases hneg : i.val < 0
  · rw [decide_eq_true hneg] at hread
    rw [Numeral.decimalInt, if_pos hneg, List.cons_append, value_minus]
    exact hread
  · rw [decide_eq_false hneg] at hread
    rw [Numeral.decimalInt, if_neg hneg]
    obtain ⟨c, cs, hcs, hc⟩ := Numeral.decimal_eq_cons i.val.natAbs
    rw [hcs, List.cons_append] at hread ⊢
    rw [value_digit hc]
    exact hread

mutual

/-- How deep arrays and objects are nested. -/
def depth : Json → Nat
  | array items => depthOfItems items + 1
  | object fields => depthOfFields fields + 1
  | _ => 0

def depthOfItems : List Json → Nat
  | [] => 0
  | j :: rest => max (depth j) (depthOfItems rest)

def depthOfFields : List (String × Json) → Nat
  | [] => 0
  | (_, j) :: rest => max (depth j) (depthOfFields rest)

end

mutual

/-- Whether no number is a double. -/
def isExact : Json → Bool
  | double _ => false
  | array items => itemsExact items
  | object fields => fieldsExact fields
  | _ => true

def itemsExact : List Json → Bool
  | [] => true
  | j :: rest => isExact j && itemsExact rest

def fieldsExact : List (String × Json) → Bool
  | [] => true
  | (_, j) :: rest => isExact j && fieldsExact rest

end

lemma depthOfItems_le_iff {items : List Json} {d : Nat} :
    depthOfItems items ≤ d ↔ ∀ j ∈ items, j.depth ≤ d := by
  induction items with
  | nil => simp [depthOfItems]
  | cons j rest ih => rw [depthOfItems, Nat.max_le, ih, List.forall_mem_cons]

lemma depthOfFields_le_iff {fields : List (String × Json)} {d : Nat} :
    depthOfFields fields ≤ d ↔ ∀ f ∈ fields, f.2.depth ≤ d := by
  induction fields with
  | nil => simp [depthOfFields]
  | cons f rest ih => rw [depthOfFields, Nat.max_le, ih, List.forall_mem_cons]

lemma itemsExact_iff {items : List Json} :
    itemsExact items = true ↔ ∀ j ∈ items, j.isExact = true := by
  induction items with
  | nil => simp [itemsExact]
  | cons j rest ih => rw [itemsExact, Bool.and_eq_true, ih, List.forall_mem_cons]

lemma fieldsExact_iff {fields : List (String × Json)} :
    fieldsExact fields = true ↔ ∀ f ∈ fields, f.2.isExact = true := by
  induction fields with
  | nil => simp [fieldsExact]
  | cons f rest ih => rw [fieldsExact, Bool.and_eq_true, ih, List.forall_mem_cons]

/-- The characters that values begin with. -/
def opensValue (c : Char) : Bool :=
  ['"', '[', '{', '-', 'n', 't', 'f'].contains c || Numeral.isDigit c

lemma ne_of_opensValue {c d : Char} (hc : opensValue c = true) (hd : opensValue d = false) :
    c ≠ d := by
  rintro rfl
  rw [hc] at hd
  cases hd

lemma skipBlank_of_opensValue {c : Char} (hc : opensValue c = true) (cs : List Char) :
    skipBlank (c :: cs) = c :: cs := by
  have hblank : (c == ' ' || c == '\t' || c == '\n' || c == '\r') = false := by
    simp only [Bool.or_eq_false_iff, beq_eq_false_iff_ne]
    refine ⟨⟨⟨?_, ?_⟩, ?_⟩, ?_⟩ <;> exact ne_of_opensValue hc (by decide)
  rw [skipBlank, List.dropWhile_cons_of_neg (by simp [hblank])]

lemma print_opensValue {j : Json} (he : j.isExact = true) :
    ∃ c cs, print j = c :: cs ∧ opensValue c = true := by
  cases j with
  | null => exact ⟨_, _, rfl, by decide⟩
  | bool b => cases b <;> exact ⟨_, _, rfl, by decide⟩
  | int i =>
    rw [print, Numeral.decimalInt]
    split_ifs with hneg
    · exact ⟨_, _, rfl, by decide⟩
    · obtain ⟨c, cs, hcs, hc⟩ := Numeral.decimal_eq_cons i.val.natAbs
      exact ⟨c, cs, hcs, by rw [opensValue, hc, Bool.or_true]⟩
  | double d => cases he
  | string s => exact ⟨_, _, rfl, by decide⟩
  | array items => exact ⟨_, _, rfl, by decide⟩
  | object fields => exact ⟨_, _, rfl, by decide⟩

lemma printItems_cons_cons (j k : Json) (more : List Json) :
    printItems (j :: k :: more) = print j ++ ',' :: printItems (k :: more) := rfl

lemma printFields_cons_cons (f g : String × Json) (more : List (String × Json)) :
    printFields (f :: g :: more) =
      printString f.1 ++ ':' :: print f.2 ++ ',' :: printFields (g :: more) := rfl

lemma printString_append (s : String) (rest : List Char) :
    printString s ++ rest = '"' :: (s.toList.flatMap printChar ++ '"' :: rest) := by
  rw [printString, List.append_assoc]
  rfl

lemma print_array_append (items : List Json) (rest : List Char) :
    print (array items) ++ rest = '[' :: (printItems items ++ ']' :: rest) := by
  rw [print, List.append_assoc]
  rfl

lemma print_object_append (fields : List (String × Json)) (rest : List Char) :
    print (object fields) ++ rest = '{' :: (printFields fields ++ '}' :: rest) := by
  rw [print, List.append_assoc]
  rfl

/-- A reader reads back the text of a value wherever it stands. -/
def ReadsBack (item : Reader Json) (j : Json) : Prop :=
  ∀ ⦃rest : List Char⦄, Follows rest → item (skipBlank (print j ++ rest)) = some (j, rest)

section Loops

variable {item : Reader Json} {cs rest : List Char}

lemma items_of_bracket {j : Json} (h : item (skipBlank cs) = some (j, ']' :: rest)) (fuel : Nat) :
    items item (fuel + 1) cs = some ([j], rest) := by
  rw [items, h]
  rfl

lemma items_of_comma {j : Json} (h : item (skipBlank cs) = some (j, ',' :: rest)) (fuel : Nat) :
    items item (fuel + 1) cs = (items item fuel rest).map fun p => (j :: p.1, p.2) := by
  rw [items, h]
  rfl

lemma items_print {js : List Json} (hne : js ≠ []) (h : ∀ j ∈ js, ReadsBack item j)
    {fuel : Nat} (hfuel : js.length ≤ fuel) (rest : List Char) :
    items item fuel (printItems js ++ ']' :: rest) = some (js, rest) := by
  induction js generalizing fuel with
  | nil => exact (hne rfl).elim
  | cons j more ih =>
    obtain ⟨hj, hmore⟩ := List.forall_mem_cons.mp h
    cases fuel with
    | zero => cases hfuel
    | succ fuel =>
      cases more with
      | nil => exact items_of_bracket (hj (.bracket rest)) fuel
      | cons k more =>
        rw [printItems_cons_cons, List.append_assoc, List.cons_append,
          items_of_comma (hj (.comma _)),
          ih (List.cons_ne_nil k more) hmore (Nat.le_of_succ_le_succ hfuel), Option.map_some]

lemma field_quote (item : Reader Json) (cs : List Char) :
    field item ('"' :: cs) =
      match stringBody cs with
      | none => none
      | some (name, rest) =>
        match skipBlank rest with
        | ':' :: rest => (item (skipBlank rest)).map fun p => ((String.ofList name, p.1), p.2)
        | _ => none := rfl

lemma field_of_name {name : List Char} (h : stringBody cs = some (name, ':' :: rest)) :
    field item ('"' :: cs) =
      (item (skipBlank rest)).map fun p => ((String.ofList name, p.1), p.2) := by
  rw [field_quote, h]
  rfl

lemma field_print {f : String × Json} (h : ReadsBack item f.2) (hr : Follows rest) :
    field item (printString f.1 ++ ':' :: print f.2 ++ rest) = some (f, rest) := by
  have hname : stringBody (f.1.toList.flatMap printChar ++ '"' :: ':' :: (print f.2 ++ rest)) =
      some (f.1.toList, ':' :: (print f.2 ++ rest)) := stringBody_print ..
  have hread : field item ('"' :: _) = _ := field_of_name hname
  rw [h hr, Option.map_some, String.ofList_toList] at hread
  simpa [printString] using hread

lemma fields_of_brace {f : String × Json} (h : field item cs = some (f, '}' :: rest))
    (fuel : Nat) : fields item (fuel + 1) cs = some ([f], rest) := by
  rw [fields, h]
  rfl

lemma fields_of_comma {f : String × Json} (h : field item cs = some (f, ',' :: rest))
    (fuel : Nat) :
    fields item (fuel + 1) cs = (fields item fuel rest).map fun p => (f :: p.1, p.2) := by
  rw [fields, h]
  rfl

lemma fields_print {fs : List (String × Json)} (hne : fs ≠ []) (h : ∀ f ∈ fs, ReadsBack item f.2)
    {fuel : Nat} (hfuel : fs.length ≤ fuel) (rest : List Char) :
    fields item fuel (printFields fs ++ '}' :: rest) = some (fs, rest) := by
  induction fs generalizing fuel with
  | nil => exact (hne rfl).elim
  | cons f more ih =>
    obtain ⟨hf, hmore⟩ := List.forall_mem_cons.mp h
    cases fuel with
    | zero => cases hfuel
    | succ fuel =>
      cases more with
      | nil => exact fields_of_brace (field_print hf (.brace rest)) fuel
      | cons g more =>
        rw [printFields_cons_cons, List.append_assoc, List.cons_append,
          fields_of_comma (field_print hf (.comma _)),
          ih (List.cons_ne_nil g more) hmore (Nat.le_of_succ_le_succ hfuel), Option.map_some]

end Loops

lemma length_le_length_printItems (js : List Json) : js.length ≤ (printItems js).length + 1 := by
  induction js with
  | nil => exact Nat.zero_le _
  | cons j more ih =>
    cases more with
    | nil => exact Nat.le_add_left 1 _
    | cons k more =>
      rw [printItems_cons_cons, List.length_append]
      simp only [List.length_cons] at ih ⊢
      omega

lemma length_le_length_printFields (fs : List (String × Json)) :
    fs.length ≤ (printFields fs).length + 1 := by
  induction fs with
  | nil => exact Nat.zero_le _
  | cons f more ih =>
    cases more with
    | nil => exact Nat.le_add_left 1 _
    | cons g more =>
      rw [printFields_cons_cons, List.length_append]
      simp only [List.length_cons] at ih ⊢
      omega

lemma value_bracket (depth : Nat) {c : Char} (hc : opensValue c = true) (cs : List Char) :
    value (depth + 1) ('[' :: c :: cs) =
      (items (value depth) (c :: cs).length (c :: cs)).map fun p => (array p.1, p.2) := by
  rw [value.eq_def]
  dsimp only
  rw [if_neg (by decide), if_pos rfl, skipBlank_of_opensValue hc]
  split
  · next he => exact (ne_of_opensValue hc (by decide) (List.cons.inj he).1).elim
  · rfl

lemma printItems_opensValue {j : Json} (he : j.isExact = true) (more : List Json) :
    ∃ c cs, printItems (j :: more) = c :: cs ∧ opensValue c = true := by
  obtain ⟨c, cs, hj, hc⟩ := print_opensValue he
  cases more with
  | nil => exact ⟨c, cs, hj, hc⟩
  | cons k more =>
    refine ⟨c, cs ++ ',' :: printItems (k :: more), ?_, hc⟩
    rw [printItems_cons_cons, hj, List.cons_append]

lemma printFields_opensValue (f : String × Json) (more : List (String × Json)) :
    ∃ cs, printFields (f :: more) = '"' :: cs := by
  cases more with
  | nil => exact ⟨_, rfl⟩
  | cons g more => exact ⟨_, rfl⟩

lemma value_array {depth : Nat} {js : List Json} (he : ∀ j ∈ js, j.isExact = true)
    (h : ∀ j ∈ js, ReadsBack (value depth) j) (rest : List Char) :
    value (depth + 1) (print (array js) ++ rest) = some (array js, rest) := by
  rw [print_array_append]
  cases js with
  | nil => rfl
  | cons j more =>
    have hlength := length_le_length_printItems (j :: more)
    have hfuel : (j :: more).length ≤ (printItems (j :: more) ++ ']' :: rest).length := by
      simp only [List.length_append, List.length_cons] at hlength ⊢
      omega
    have hitems := items_print (List.cons_ne_nil j more) h hfuel rest
    obtain ⟨c, cs, hcs, hc⟩ := printItems_opensValue (he j List.mem_cons_self) more
    rw [hcs, List.cons_append] at hitems ⊢
    rw [value_bracket depth hc, hitems]
    rfl

/-- What follows an opening brace. -/
def openFields (depth : Nat) (cs : List Char) : Option (List (String × Json) × List Char) :=
  match skipBlank cs with
  | '}' :: rest => some ([], rest)
  | rest => fields (value depth) rest.length rest

lemma value_openFields (depth : Nat) (cs : List Char) :
    value (depth + 1) ('{' :: cs) =
      (openFields depth cs).map fun p => (object (JsonFields.ofList p.1), p.2) := by
  rw [value.eq_def]
  dsimp only
  rw [if_neg (by decide), if_neg (by decide), if_pos rfl, openFields]
  generalize skipBlank cs = body
  split
  · rfl
  · simp

lemma openFields_print {depth : Nat} {fs : List (String × Json)}
    (h : ∀ f ∈ fs, ReadsBack (value depth) f.2) (rest : List Char) :
    openFields depth (printFields fs ++ '}' :: rest) = some (fs, rest) := by
  cases fs with
  | nil => rfl
  | cons f more =>
    have hlength := length_le_length_printFields (f :: more)
    have hfuel : (f :: more).length ≤ (printFields (f :: more) ++ '}' :: rest).length := by
      simp only [List.length_append, List.length_cons] at hlength ⊢
      omega
    have hfields := fields_print (List.cons_ne_nil f more) h hfuel rest
    obtain ⟨cs, hcs⟩ := printFields_opensValue f more
    rw [hcs, List.cons_append] at hfields ⊢
    rw [openFields, skipBlank_of_opensValue (by decide)]
    exact hfields

lemma value_object {depth : Nat} {fs : JsonFields} (hs : fs.Sorted)
    (h : ∀ f ∈ fs, ReadsBack (value depth) f.2) (rest : List Char) :
    value (depth + 1) (print (object fs) ++ rest) = some (object fs, rest) := by
  rw [print_object_append, value_openFields, openFields_print h rest, Option.map_some,
    JsonFields.ofList_of_sorted hs]

lemma readsBack_value {j : Json} (he : j.isExact = true) {d : Nat}
    (h : ∀ rest, Follows rest → value d (print j ++ rest) = some (j, rest)) :
    ReadsBack (value d) j := by
  intro rest hr
  obtain ⟨c, cs, hcs, hc⟩ := print_opensValue he
  have hread := h rest hr
  rw [hcs, List.cons_append] at hread ⊢
  rw [skipBlank_of_opensValue hc, hread]

/-- The text of a value is read as that value, whatever follows it. -/
theorem value_print {j : Json} (ho : j.Ordered) (he : j.isExact = true) {d : Nat}
    (hd : j.depth ≤ d) {rest : List Char} (hr : Follows rest) :
    value d (print j ++ rest) = some (j, rest) := by
  -- The depth that is left to the reader goes down with the values inside.
  induction ho generalizing d rest with
  | null =>
    rw [value.eq_def]
    rfl
  | bool b =>
    rw [value.eq_def]
    cases b <;> rfl
  | int i => exact value_int d i hr
  | double d => cases he
  | string s =>
    have hread := stringBody_print s.toList rest
    rw [print, printString_append, value.eq_def]
    dsimp only
    rw [if_pos rfl, hread, Option.map_some, String.ofList_toList]
  | array hitems ih =>
    cases d with
    | zero => cases hd
    | succ d =>
      have hexact := itemsExact_iff.mp he
      have hdepth := depthOfItems_le_iff.mp (Nat.le_of_succ_le_succ hd)
      exact value_array hexact
        (fun j hj => readsBack_value (hexact j hj) fun _ => ih j hj (hexact j hj) (hdepth j hj)) rest
  | object hs hfields ih =>
    cases d with
    | zero => cases hd
    | succ d =>
      have hexact := fieldsExact_iff.mp he
      have hdepth := depthOfFields_le_iff.mp (Nat.le_of_succ_le_succ hd)
      exact value_object hs
        (fun f hf => readsBack_value (hexact f hf) fun _ => ih f hf (hexact f hf) (hdepth f hf)) rest

theorem parse?_print {j : Json} (ho : j.Ordered) (he : j.isExact = true)
    (hd : j.depth ≤ maxDepth) : parse? (print j) = some j := by
  have hread : value maxDepth (skipBlank (print j ++ [])) = some (j, []) :=
    readsBack_value he (fun _ hr => value_print ho he hd hr) .nil
  rw [List.append_nil] at hread
  rw [parse?, hread]
  rfl

theorem parseBytes?_bytes {j : Json} (ho : j.Ordered) (he : j.isExact = true)
    (hd : j.depth ≤ maxDepth) : parseBytes? j.bytes = some j := by
  rw [parseBytes?, bytes, Utf8.decode?_encode, Option.bind_some, parse?_print ho he hd]

end GatedRelay.Json
