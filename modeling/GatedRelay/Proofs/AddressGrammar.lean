import GatedRelay.Proofs.AddressTexts

/-!
# Which texts are addresses

Octets, groups and whole addresses as they are spelled, and that these spellings are what is read.
-/

namespace GatedRelay.IpAddress

open GatedRelay.Numeral (isDigitIn)

/-! ### Numbers -/

/-- Digits of a base, not too many, that make up a number below a limit. Where leading zeros are
refused, a zero in front is the only digit. -/
structure SpellsNumber (base maxDigits limit : Nat) (leadingZeros : Bool) (n : Nat)
    (cs : List Char) : Prop where
  value : Numeral.read? base cs = some n
  length : cs.length ≤ maxDigits
  limit : n < limit
  zeros : leadingZeros = false → cs.head? = some '0' → cs.length ≤ 1

lemma isDigitIn_of_readFrom {base acc n : Nat} {cs : List Char}
    (h : Numeral.readFrom base acc cs = some n) : ∀ c ∈ cs, isDigitIn base c = true := by
  induction cs generalizing acc with
  | nil => exact List.forall_mem_nil _
  | cons c rest ih =>
    rw [Numeral.readFrom] at h
    split at h
    · next d hd =>
      split_ifs at h with hlt
      exact List.forall_mem_cons.mpr ⟨by simp [isDigitIn, hd, hlt], ih h⟩
    · cases h

section Number

variable {base maxDigits limit n : Nat} {leadingZeros : Bool} {cs rest : List Char}

lemma SpellsNumber.isDigitIn (h : SpellsNumber base maxDigits limit leadingZeros n cs) :
    ∀ c ∈ cs, isDigitIn base c = true := by
  have hvalue := h.value
  rw [Numeral.read?] at hvalue
  split_ifs at hvalue
  exact isDigitIn_of_readFrom hvalue

lemma noDigit_dropWhile (base : Nat) (cs : List Char) :
    NoDigit base (cs.dropWhile (Numeral.isDigitIn base)) := by
  intro c hc
  have hhead := List.head?_dropWhile_not (Numeral.isDigitIn base) cs
  rw [Option.mem_def.mp hc] at hhead
  simpa using hhead

/-- A number is read if and only if one is spelled at the front and no digit comes after it. -/
lemma readNumber?_eq_some_iff :
    readNumber? base maxDigits limit leadingZeros cs = some (n, rest) ↔
      ∃ t, cs = t ++ rest ∧ NoDigit base rest ∧
        SpellsNumber base maxDigits limit leadingZeros n t := by
  constructor
  · intro h
    have hrest := rest_of_readNumber? h
    refine ⟨cs.takeWhile (Numeral.isDigitIn base), ?_, hrest ▸ noDigit_dropWhile base cs, ?_⟩
    · rw [hrest, List.takeWhile_append_dropWhile]
    rw [readNumber?_eq] at h
    split_ifs at h with hguard
    rw [not_or] at hguard
    split at h
    · next m hm =>
      split_ifs at h with hlt
      cases h
      refine ⟨hm, Nat.not_lt.mp hguard.1, hlt, fun hzeros hhead => ?_⟩
      by_contra hlong
      exact hguard.2 ⟨by rw [hzeros]; rfl, hhead, Nat.not_le.mp hlong⟩
    · cases h
  · rintro ⟨t, rfl, hrest, ht⟩
    have htake : (t ++ rest).takeWhile (Numeral.isDigitIn base) = t := by
      rw [List.takeWhile_append_of_pos ht.isDigitIn, hrest.takeWhile, List.append_nil]
    have hdrop : (t ++ rest).dropWhile (Numeral.isDigitIn base) = rest := by
      rw [List.dropWhile_append_of_pos ht.isDigitIn, hrest.dropWhile]
    rw [readNumber?_eq, htake, hdrop, if_neg, ht.value]
    · exact if_pos ht.limit
    · rintro (hlong | ⟨hzeros, hhead, hlong⟩)
      · exact Nat.not_le.mpr hlong ht.length
      · exact Nat.not_le.mpr hlong (ht.zeros (by simpa using hzeros) hhead)

end Number

/-! ### Octets -/

/-- Numbers below 256 in three digits at most, each after a point. -/
inductive SpellsOctets (g : Grammar) : List Nat → List Char → Prop
  | nil : SpellsOctets g [] []
  | cons {o : Nat} {os : List Nat} {t cs : List Char} :
      SpellsNumber 10 3 256 g.leadingZeros o t → SpellsOctets g os cs →
      SpellsOctets g (o :: os) ('.' :: (t ++ cs))

/-- Four numbers with points between them. -/
inductive SpellsV4 (g : Grammar) : List Nat → List Char → Prop
  | octets {o : Nat} {os : List Nat} {t cs : List Char} :
      SpellsNumber 10 3 256 g.leadingZeros o t → SpellsOctets g os cs → os.length = 3 →
      SpellsV4 g (o :: os) (t ++ cs)

variable {g : Grammar}

lemma noDigit_point (base : Nat) (rest : List Char) : NoDigit base ('.' :: rest) := by
  intro c hc
  cases hc
  rfl

lemma SpellsOctets.noDigit {os : List Nat} {cs rest : List Char} (h : SpellsOctets g os cs)
    (hrest : NoDigit 10 rest) : NoDigit 10 (cs ++ rest) := by
  cases h with
  | nil => exact hrest
  | cons ht hcs => exact noDigit_point 10 _

lemma SpellsOctets.readOctets? {os : List Nat} {cs rest : List Char} (h : SpellsOctets g os cs)
    (hrest : NoDigit 10 rest) : readOctets? g os.length (cs ++ rest) = some (os, rest) := by
  induction h with
  | nil => rfl
  | @cons o os t cs ht hcs ih =>
    have hread := readNumber?_eq_some_iff.mpr ⟨t, rfl, hcs.noDigit hrest, ht⟩
    rw [List.length_cons, List.cons_append, List.append_assoc, IpAddress.readOctets?, hread]
    dsimp only
    rw [ih]
    rfl

lemma spellsOctets_of_readOctets? {n : Nat} {os : List Nat} {cs rest : List Char}
    (h : readOctets? g n cs = some (os, rest)) :
    ∃ t, cs = t ++ rest ∧ SpellsOctets g os t ∧ os.length = n := by
  induction n generalizing cs os with
  | zero =>
    cases h
    exact ⟨[], rfl, .nil, rfl⟩
  | succ n ih =>
    rw [readOctets?.eq_def] at h
    dsimp only at h
    split at h
    · split at h
      · next o after hnumber =>
        obtain ⟨⟨os', rest'⟩, hos, heq⟩ := Option.map_eq_some_iff.mp h
        cases heq
        obtain ⟨t, rfl, -, ht⟩ := readNumber?_eq_some_iff.mp hnumber
        obtain ⟨u, rfl, hu, hlength⟩ := ih hos
        exact ⟨'.' :: (t ++ u), by simp, .cons ht hu, by simp [hlength]⟩
      · cases h
    · cases h

lemma SpellsV4.readV4? {os : List Nat} {cs rest : List Char} (h : SpellsV4 g os cs)
    (hrest : NoDigit 10 rest) : readV4? g (cs ++ rest) = some (os, rest) := by
  obtain ⟨ht, hcs, hlength⟩ := h
  have hread := readNumber?_eq_some_iff.mpr ⟨_, rfl, hcs.noDigit hrest, ht⟩
  have hoctets := hcs.readOctets? hrest
  rw [hlength] at hoctets
  rw [List.append_assoc, IpAddress.readV4?, hread]
  dsimp only
  rw [hoctets]
  rfl

lemma spellsV4_of_readV4? {os : List Nat} {cs rest : List Char}
    (h : readV4? g cs = some (os, rest)) : ∃ t, cs = t ++ rest ∧ SpellsV4 g os t := by
  rw [readV4?] at h
  split at h
  · next o after hnumber =>
    obtain ⟨⟨os', rest'⟩, hos, heq⟩ := Option.map_eq_some_iff.mp h
    cases heq
    obtain ⟨t, rfl, -, ht⟩ := readNumber?_eq_some_iff.mp hnumber
    obtain ⟨u, rfl, hu, hlength⟩ := spellsOctets_of_readOctets? hos
    exact ⟨t ++ u, by simp, .octets ht hu hlength⟩
  · cases h

/-! ### Groups -/

/-- What stands in front of a group: a colon, unless it is the first. -/
def separator (first : Bool) : List Char := if first then [] else [':']

/-- Groups of four hexadecimal digits at most with colons between them; the last two may be spelled
as octets. -/
inductive SpellsGroups (g : Grammar) : Bool → List Nat → Bool → List Char → Prop
  | nil (first : Bool) : SpellsGroups g first [] false []
  | octets (first : Bool) {a b c d : Nat} {t : List Char} : SpellsV4 g [a, b, c, d] t →
      SpellsGroups g first [a * 256 + b, c * 256 + d] true (separator first ++ t)
  | group (first : Bool) {v : Nat} {gs : List Nat} {octets : Bool} {t cs : List Char} :
      SpellsNumber 16 4 65536 true v t → SpellsGroups g false gs octets cs →
      SpellsGroups g first (v :: gs) octets (separator first ++ (t ++ cs))

lemma groupText?_separator (first : Bool) (cs : List Char) :
    groupText? first (separator first ++ cs) = some cs := by
  cases first <;> rfl

lemma eq_of_groupText? {first : Bool} {cs body : List Char} (h : groupText? first cs = some body) :
    cs = separator first ++ body := by
  cases first with
  | true => exact Option.some.inj h
  | false =>
    simp only [groupText?, Bool.false_eq_true, if_false] at h
    split at h <;> cases h
    rfl

lemma spellsGroups_of_readGroups {n : Nat} {first octets : Bool} {gs : List Nat}
    {cs rest : List Char} (h : readGroups g n first cs = (gs, octets, rest)) :
    ∃ t, cs = t ++ rest ∧ SpellsGroups g first gs octets t ∧ gs.length ≤ n := by
  induction n generalizing first gs cs with
  | zero =>
    cases h
    exact ⟨[], rfl, .nil first, Nat.le_refl 0⟩
  | succ n ih =>
    rw [readGroups_succ] at h
    split at h
    · cases h
      exact ⟨[], rfl, .nil first, Nat.zero_le _⟩
    · next body hbody =>
      split at h
      · next a b c d after hoctets =>
        split_ifs at hoctets with hn
        cases h
        obtain ⟨t, rfl, ht⟩ := spellsV4_of_readV4? hoctets
        refine ⟨separator first ++ t, ?_, .octets first ht, ?_⟩
        · rw [eq_of_groupText? hbody, List.append_assoc]
        · simp only [List.length_cons, List.length_nil]
          omega
      · split at h
        · next v after hnumber =>
          obtain ⟨t, rfl, -, ht⟩ := readNumber?_eq_some_iff.mp hnumber
          generalize hgs : readGroups g n false after = read at h
          obtain ⟨gs', octets', rest'⟩ := read
          cases h
          obtain ⟨u, rfl, hu, hlength⟩ := ih hgs
          refine ⟨separator first ++ (t ++ u), ?_, .group first ht hu, Nat.succ_le_succ hlength⟩
          rw [eq_of_groupText? hbody]
          simp only [List.append_assoc]
        · cases h
          exact ⟨[], rfl, .nil first, Nat.zero_le _⟩

lemma point_notMem_of_spellsNumber {maxDigits limit v : Nat} {leadingZeros : Bool}
    {t : List Char} (h : SpellsNumber 16 maxDigits limit leadingZeros v t) : '.' ∉ t := by
  intro hmem
  exact absurd (h.isDigitIn _ hmem) (by decide)

/-- What follows a group within a run, or after the run. -/
lemma SpellsGroups.after {gs : List Nat} {octets : Bool} {cs rest : List Char}
    (h : SpellsGroups g false gs octets cs) (hrest : EndsGroups rest) :
    (∀ base, NoDigit base (cs ++ rest)) ∧ (cs ++ rest).head? ≠ some '.' := by
  have hcolon : ∀ u : List Char, (∀ base, NoDigit base (':' :: u)) ∧ (':' :: u).head? ≠ some '.' :=
    fun u => ⟨fun base => noDigit_colon base u, by simp⟩
  cases h with
  | nil => exact ⟨fun base => hrest.noDigit base, hrest.head_ne_point⟩
  | octets _ ht => exact hcolon _
  | group _ ht hcs => exact hcolon _

lemma SpellsGroups.readGroups {n : Nat} {first octets : Bool} {gs : List Nat} {cs rest : List Char}
    (h : SpellsGroups g first gs octets cs) (hn : gs.length ≤ n) (hrest : EndsGroups rest) :
    readGroups g n first (cs ++ rest) = (gs, octets, rest) := by
  induction h generalizing n with
  | nil first => exact hrest.readGroups g n first
  | @octets first a b c d t ht =>
    obtain ⟨m, rfl⟩ := Nat.exists_eq_add_of_le' (show 2 ≤ n from hn)
    rw [List.append_assoc]
    exact readGroups_octets (groupText?_separator first _) (ht.readV4? (hrest.noDigit 10))
  | @group first v gs octets t cs ht hcs ih =>
    rw [List.length_cons] at hn
    obtain ⟨m, rfl⟩ := Nat.exists_eq_add_of_le' (Nat.le_of_add_left_le hn)
    obtain ⟨hdigit, hpoint⟩ := hcs.after hrest
    have hnumber := readNumber?_eq_some_iff.mpr ⟨t, rfl, hdigit 16, ht⟩
    have hoctets := readV4?_eq_none g (point_notMem_of_spellsNumber ht) (hdigit 10) hpoint
    rw [List.append_assoc, List.append_assoc,
      readGroups_number (groupText?_separator first _) hoctets hnumber, ih (by omega)]

/-! ### Eight groups -/

/-- Eight groups, of which a double colon may leave out a run of zeros. -/
inductive SpellsV6 (g : Grammar) : List Nat → List Char → Prop
  | full {gs : List Nat} {octets : Bool} {cs : List Char} : SpellsGroups g true gs octets cs →
      gs.length = 8 → SpellsV6 g gs cs
  | gap {head tail : List Nat} {octets : Bool} {front back : List Char} :
      SpellsGroups g true head false front → SpellsGroups g true tail octets back →
      head.length < 8 → head.length + tail.length + g.fewestOmitted ≤ 8 →
      SpellsV6 g (head ++ List.replicate (8 - head.length - tail.length) 0 ++ tail)
        (front ++ ':' :: ':' :: back)

lemma SpellsV6.readV6? {gs : List Nat} {cs rest : List Char} (h : SpellsV6 g gs cs)
    (hrest : EndsGroups rest) : readV6? g (cs ++ rest) = some (gs, rest) := by
  cases h with
  | full hgs hlength => exact readV6?_of_full (hgs.readGroups (by omega) hrest) hlength
  | @gap head tail octets front back hhead htail hlt hsum =>
    rw [List.append_assoc, List.cons_append, List.cons_append]
    exact readV6?_of_gap (hhead.readGroups (by omega) (.gap _)) (by omega)
      (htail.readGroups (by omega) hrest)

lemma spellsV6_of_readV6? (hg : g.fewestOmitted ≤ 1) {gs : List Nat} {cs rest : List Char}
    (h : readV6? g cs = some (gs, rest)) : ∃ t, cs = t ++ rest ∧ SpellsV6 g gs t := by
  rw [readV6?] at h
  generalize hhead : readGroups g 8 true cs = read at h
  obtain ⟨head, octets, after⟩ := read
  obtain ⟨front, rfl, hfront, hle⟩ := spellsGroups_of_readGroups hhead
  dsimp only at h
  split_ifs at h with hfull hoctets
  · cases h
    exact ⟨front, rfl, .full hfront hfull⟩
  · split at h
    · next back =>
      generalize htail : readGroups g (8 - g.fewestOmitted - head.length) true back = read at h
      obtain ⟨tail, octets', rest'⟩ := read
      cases h
      obtain ⟨t, rfl, ht, hle'⟩ := spellsGroups_of_readGroups htail
      dsimp only
      have hfalse : octets = false := by simpa using hoctets
      subst hfalse
      exact ⟨front ++ ':' :: ':' :: t, by simp, .gap hfront ht (by omega) (by omega)⟩
    · cases h

/-! ### Characters -/

lemma isHexDigit_of_isDigitIn {base : Nat} {c : Char} (hc : isDigitIn base c = true) :
    isHexDigit c = true := by
  cases hhex : isHexDigit c with
  | true => rfl
  | false => rw [← hc, isDigitIn_of_isHexDigit hhex]

/-- The characters that texts of addresses are made of. -/
def IsAddressChar (c : Char) : Prop := isHexDigit c = true ∨ c = '.' ∨ c = ':'

lemma SpellsNumber.isAddressChar {base maxDigits limit n : Nat} {leadingZeros : Bool}
    {cs : List Char} (h : SpellsNumber base maxDigits limit leadingZeros n cs) :
    ∀ c ∈ cs, IsAddressChar c :=
  fun c hc => .inl (isHexDigit_of_isDigitIn (h.isDigitIn c hc))

lemma SpellsOctets.mem {os : List Nat} {cs : List Char} (h : SpellsOctets g os cs) {c : Char}
    (hc : c ∈ cs) : isHexDigit c = true ∨ c = '.' := by
  induction h with
  | nil => cases hc
  | cons ht hcs ih =>
    rcases List.mem_cons.mp hc with hc | hc
    · exact .inr hc
    rcases List.mem_append.mp hc with hc | hc
    · exact .inl (isHexDigit_of_isDigitIn (ht.isDigitIn c hc))
    · exact ih hc

lemma SpellsV4.mem {os : List Nat} {cs : List Char} (h : SpellsV4 g os cs) {c : Char}
    (hc : c ∈ cs) : isHexDigit c = true ∨ c = '.' := by
  obtain ⟨ht, hcs, -⟩ := h
  rcases List.mem_append.mp hc with hc | hc
  · exact .inl (isHexDigit_of_isDigitIn (ht.isDigitIn c hc))
  · exact hcs.mem hc

lemma SpellsGroups.isAddressChar {first octets : Bool} {gs : List Nat} {cs : List Char}
    (h : SpellsGroups g first gs octets cs) : ∀ c ∈ cs, IsAddressChar c := by
  have hseparator : ∀ first, ∀ c ∈ separator first, IsAddressChar c := by
    intro first c hc
    cases first with
    | true => cases hc
    | false => exact .inr (.inr (List.mem_singleton.mp hc))
  induction h with
  | nil first => exact List.forall_mem_nil _
  | octets first ht =>
    exact List.forall_mem_append.mpr ⟨hseparator first, fun c hc => (ht.mem hc).imp_right .inl⟩
  | group first ht hcs ih =>
    exact List.forall_mem_append.mpr
      ⟨hseparator first, List.forall_mem_append.mpr ⟨ht.isAddressChar, ih⟩⟩

lemma SpellsV6.isAddressChar {gs : List Nat} {cs : List Char} (h : SpellsV6 g gs cs) :
    ∀ c ∈ cs, IsAddressChar c := by
  have hcolon : IsAddressChar ':' := .inr (.inr rfl)
  cases h with
  | full hgs _ => exact hgs.isAddressChar
  | gap hhead htail _ _ =>
    exact List.forall_mem_append.mpr ⟨hhead.isAddressChar,
      List.forall_mem_cons.mpr ⟨hcolon, List.forall_mem_cons.mpr ⟨hcolon, htail.isAddressChar⟩⟩⟩

lemma SpellsV4.colon_notMem {os : List Nat} {cs : List Char} (h : SpellsV4 g os cs) :
    ':' ∉ cs := by
  intro hmem
  rcases h.mem hmem with hc | hc <;> exact absurd hc (by decide)

/-- Eight groups have a colon between them. -/
lemma SpellsV6.colon_mem {gs : List Nat} {cs : List Char} (h : SpellsV6 g gs cs) : ':' ∈ cs := by
  cases h with
  | full hgs hlength =>
    cases hgs with
    | nil => cases hlength
    | octets _ ht => cases hlength
    | group _ ht hcs =>
      have hmore : ':' ∈ separator false := List.mem_singleton_self _
      cases hcs with
      | nil => cases hlength
      | octets _ ht => simp [hmore]
      | group _ ht hcs => simp [hmore]
  | gap hhead htail _ _ => simp

/-! ### Whole addresses -/

/-- A text that denotes an address. -/
inductive Spells : IpAddress → List Char → Prop
  | v4 {os : List Nat} {cs : List Char} : SpellsV4 .strict os cs → Spells (v4 (ofDigits 32 8 os)) cs
  | v6 {gs : List Nat} {cs : List Char} : SpellsV6 .strict gs cs →
      Spells (v6 (ofDigits 128 16 gs)) cs

/-- What is read of an address is what its text denotes. -/
theorem parse?_eq_some_iff {cs : List Char} {a : IpAddress} :
    parse? cs = some a ↔ Spells a cs := by
  constructor
  · intro h
    rw [parse?] at h
    split at h
    · next os hos =>
      cases h
      obtain ⟨t, rfl, ht⟩ := spellsV4_of_readV4? hos
      rw [List.append_nil]
      exact .v4 ht
    · split at h
      · next gs hgs =>
        cases h
        obtain ⟨t, rfl, ht⟩ := spellsV6_of_readV6? (by decide) hgs
        rw [List.append_nil]
        exact .v6 ht
      · cases h
  · rintro (⟨hos⟩ | ⟨hgs⟩)
    · have hread := hos.readV4? (EndsGroups.nil.noDigit 10)
      rw [List.append_nil] at hread
      rw [parse?, hread]
    · have hread := hgs.readV6? .nil
      rw [List.append_nil] at hread
      rw [parse?, hread]
      split
      · next os hos =>
        -- Octets have no colon, so that no text is spelled both ways.
        obtain ⟨t, rfl, ht⟩ := spellsV4_of_readV4? hos
        rw [List.append_nil] at hgs
        exact absurd hgs.colon_mem ht.colon_notMem
      · rfl

end GatedRelay.IpAddress
