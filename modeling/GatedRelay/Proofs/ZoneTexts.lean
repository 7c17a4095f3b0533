import GatedRelay.Proofs.DecimalTexts
import GatedRelay.Time.Zone

/-!
# Texts of zones

A zone is UTC by one of its names, or hours and minutes in two digits each. Other numbers than those
of two digits are read as well.
-/

namespace GatedRelay

/-! ### Numbers -/

namespace Numeral

/-- Decimal digits that make up a number. Zeros may stand in front. -/
def SpellsDecimal (n : Nat) (text : List Char) : Prop :=
  ∃ ds, ds ≠ [] ∧ (∀ d ∈ ds, d < 10) ∧ digitText ds = text ∧ valueFrom 10 0 ds = n

lemma digitValue?_eq_some_iff {c : Char} {d : Nat} (hd : d < 10) :
    digitValue? c = some d ↔ digitChar d = c := by
  constructor
  · intro h
    rw [digitValue?] at h
    split_ifs at h with hdigit hlower hupper
    · obtain rfl := Option.some.inj h
      have hlow : 48 ≤ c.toNat := UInt32.le_iff_toNat_le.mp hdigit.1
      rw [digitChar, if_pos hd, Nat.add_sub_cancel' hlow, Char.ofNat_toNat]
    · obtain rfl := Option.some.inj h
      have hlow : 97 ≤ c.toNat := UInt32.le_iff_toNat_le.mp hlower.1
      omega
    · obtain rfl := Option.some.inj h
      have hlow : 65 ≤ c.toNat := UInt32.le_iff_toNat_le.mp hupper.1
      omega
  · rintro rfl
    exact digitValue?_digitChar (by omega)

lemma readFrom_ten_eq_some_iff {acc n : Nat} {cs : List Char} :
    readFrom 10 acc cs = some n ↔
      ∃ ds, (∀ d ∈ ds, d < 10) ∧ digitText ds = cs ∧ valueFrom 10 acc ds = n := by
  constructor
  · intro h
    induction cs generalizing acc with
    | nil => exact ⟨[], List.forall_mem_nil _, rfl, Option.some.inj h⟩
    | cons c rest ih =>
      rw [readFrom] at h
      split at h
      · next d hd =>
        split_ifs at h with hlt
        obtain ⟨ds, hds, rfl, hn⟩ := ih h
        obtain rfl := (digitValue?_eq_some_iff hlt).mp hd
        exact ⟨d :: ds, List.forall_mem_cons.mpr ⟨hlt, hds⟩, rfl, hn⟩
      · cases h
  · rintro ⟨ds, hds, rfl, rfl⟩
    exact readFrom_digitChar (by decide) hds acc

lemma read?_ten_eq_some_iff {n : Nat} {cs : List Char} :
    read? 10 cs = some n ↔ SpellsDecimal n cs := by
  cases cs with
  | nil => simp [read?, SpellsDecimal, digitText]
  | cons c rest =>
    have hread : read? 10 (c :: rest) = readFrom 10 0 (c :: rest) := rfl
    rw [hread, readFrom_ten_eq_some_iff, SpellsDecimal]
    constructor
    · rintro ⟨ds, hds, htext, hn⟩
      refine ⟨ds, ?_, hds, htext, hn⟩
      rintro rfl
      cases htext
    · rintro ⟨ds, -, hds, htext, hn⟩
      exact ⟨ds, hds, htext, hn⟩

lemma isDigit_of_spellsDecimal {n : Nat} {text : List Char} (h : SpellsDecimal n text) :
    ∀ c ∈ text, isDigit c = true := by
  obtain ⟨ds, -, hds, rfl, -⟩ := h
  exact fun c hc => isDigit_of_mem_digitText hds hc

lemma SpellsDecimal.eq_cons {n : Nat} {text : List Char} (h : SpellsDecimal n text) :
    ∃ c rest, text = c :: rest ∧ isDigit c = true := by
  have hdigits := isDigit_of_spellsDecimal h
  obtain ⟨ds, hne, -, rfl, -⟩ := h
  obtain ⟨d, rest, rfl⟩ := List.exists_cons_of_ne_nil hne
  exact ⟨_, _, rfl, hdigits _ List.mem_cons_self⟩

/-- A decimal with a sign in front or none. -/
inductive SpellsSigned : Int → List Char → Prop
  | bare {n : Nat} {text : List Char} (h : SpellsDecimal n text) : SpellsSigned n text
  | plus {n : Nat} {text : List Char} (h : SpellsDecimal n text) : SpellsSigned n ('+' :: text)
  | minus {n : Nat} {text : List Char} (h : SpellsDecimal n text) :
    SpellsSigned (-(n : Int)) ('-' :: text)

lemma readSigned?_of_isDigit {c : Char} (hc : isDigit c = true) (rest : List Char) :
    readSigned? (c :: rest) = (read? 10 (c :: rest)).map Int.ofNat := by
  rw [readSigned?, readUnsigned?]
  · rintro _ ⟨⟩
    cases hc
  · rintro _ ⟨⟩
    cases hc

lemma readSigned?_minus (text : List Char) :
    readSigned? ('-' :: text) = (read? 10 text).map fun n : Nat => -(n : Int) := by
  rw [readSigned?]
  cases read? 10 text <;> rfl

lemma readSigned?_eq_some_iff {i : Int} {cs : List Char} :
    readSigned? cs = some i ↔ SpellsSigned i cs := by
  constructor
  · intro h
    rw [readSigned?.eq_def] at h
    split at h
    · next text =>
      rw [← readSigned?, readSigned?_minus] at h
      obtain ⟨n, hn, rfl⟩ := Option.map_eq_some_iff.mp h
      exact .minus (read?_ten_eq_some_iff.mp hn)
    · unfold readUnsigned? at h
      split at h
      · obtain ⟨n, hn, rfl⟩ := Option.map_eq_some_iff.mp h
        exact .plus (read?_ten_eq_some_iff.mp hn)
      · obtain ⟨n, hn, rfl⟩ := Option.map_eq_some_iff.mp h
        exact .bare (read?_ten_eq_some_iff.mp hn)
  · intro h
    cases h with
    | bare h =>
      obtain ⟨c, rest, rfl, hc⟩ := h.eq_cons
      rw [readSigned?_of_isDigit hc, read?_ten_eq_some_iff.mpr h]
      rfl
    | plus h =>
      exact Option.map_eq_some_iff.mpr ⟨_, read?_ten_eq_some_iff.mpr h, rfl⟩
    | minus h =>
      rw [readSigned?_minus]
      exact Option.map_eq_some_iff.mpr ⟨_, read?_ten_eq_some_iff.mpr h, rfl⟩

lemma SpellsSigned.colon_notMem {i : Int} {cs : List Char} (h : SpellsSigned i cs) : ':' ∉ cs := by
  have hdigits {n : Nat} {text : List Char} (ht : SpellsDecimal n text) : ':' ∉ text :=
    fun hmem => absurd (isDigit_of_spellsDecimal ht _ hmem) (by decide)
  cases h with
  | bare h => exact hdigits h
  | plus h => simpa using hdigits h
  | minus h => simpa using hdigits h

end Numeral

namespace Zone

open GatedRelay.Numeral (SpellsDecimal SpellsSigned digitText valueFrom)

lemma component?_eq_some_iff {limit n : Nat} {cs : List Char} :
    component? limit cs = some n ↔ n < limit ∧ SpellsSigned n cs := by
  rw [← Numeral.readSigned?_eq_some_iff, component?]
  cases Numeral.readSigned? cs with
  | none => simp
  | some i =>
    simp only [Option.ite_none_right_eq_some, Option.some.injEq]
    omega

/-! ### Grammar -/

/-- A sign and its factor, or none. -/
inductive SpellsSign : Int → List Char → Prop
  | absent : SpellsSign 1 []
  | plus : SpellsSign 1 ['+']
  | minus : SpellsSign (-1) ['-']

/-- Two digits that make up a number. -/
def TwoDigits (n : Nat) (text : List Char) : Prop :=
  ∃ tens ones, tens < 10 ∧ ones < 10 ∧ text = digitText [tens, ones] ∧ n = tens * 10 + ones

/-- Hours and minutes with a colon between them, their numbers spelled in some way, and the seconds
that they make up. -/
inductive SpellsClock (number : Nat → List Char → Prop) : Int → List Char → Prop
  | mk {h m : Nat} {hours minutes : List Char} (hh : h < 24) (hhours : number h hours)
    (hm : m < 60) (hminutes : number m minutes) :
    SpellsClock number ((h : Int) * 3600 + (m : Int) * 60) (hours ++ ':' :: minutes)

/-- The texts of zones and the seconds that they are ahead of UTC. -/
inductive IsZone : Int → List Char → Prop
  | utc {cs : List Char} (h : Text.lowerAscii cs = ['u', 't', 'c']) : IsZone 0 cs
  | zulu : IsZone 0 ['Z']
  | offset {sign seconds : Int} {s clock : List Char} (hsign : SpellsSign sign s)
    (hclock : SpellsClock TwoDigits seconds clock) : IsZone (sign * seconds) (s ++ clock)

/-- No sign comes first. -/
def Bare (cs : List Char) : Prop := ∀ c ∈ cs.head?, c ≠ '+' ∧ c ≠ '-'

/-- Hours and minutes that are read as any whole numbers are, where not both have two digits. -/
def LooseClock (seconds : Int) (clock : List Char) : Prop :=
  SpellsClock (fun n => SpellsSigned n) seconds clock ∧
    ∀ seconds', ¬SpellsClock TwoDigits seconds' clock

/-- What is read as a zone and is no text of one. A sign that comes first is that of the offset. -/
inductive IsLooseZone : Int → List Char → Prop
  | offset {sign seconds : Int} {s clock : List Char} (hsign : SpellsSign sign s)
    (hbare : s = [] → Bare clock) (hclock : LooseClock seconds clock) :
    IsLooseZone (sign * seconds) (s ++ clock)

/-! ### Hours and minutes -/

lemma TwoDigits.spellsDecimal {n : Nat} {text : List Char} (h : TwoDigits n text) :
    SpellsDecimal n text := by
  obtain ⟨tens, ones, htens, hones, rfl, rfl⟩ := h
  refine ⟨[tens, ones], List.cons_ne_nil _ _, ?_, rfl, ?_⟩
  · exact List.forall_mem_cons.mpr ⟨htens, List.forall_mem_singleton.mpr hones⟩
  · simp [valueFrom]

section Clock

variable {seconds : Int} {clock : List Char}

lemma SpellsClock.colon_mem {number : Nat → List Char → Prop}
    (h : SpellsClock number seconds clock) : ':' ∈ clock := by
  cases h
  simp

lemma SpellsClock.bounds {number : Nat → List Char → Prop}
    (h : SpellsClock number seconds clock) : 0 ≤ seconds ∧ seconds < 86400 := by
  cases h
  omega

lemma SpellsClock.signed (h : SpellsClock TwoDigits seconds clock) :
    SpellsClock (fun n => SpellsSigned n) seconds clock := by
  obtain ⟨hh, hhours, hm, hminutes⟩ := h
  exact ⟨hh, .bare hhours.spellsDecimal, hm, .bare hminutes.spellsDecimal⟩

lemma SpellsClock.bare (h : SpellsClock TwoDigits seconds clock) : Bare clock := by
  obtain ⟨-, hhours, -, -⟩ := h
  obtain ⟨c, rest, rfl, hc⟩ := hhours.spellsDecimal.eq_cons
  rintro _ ⟨⟩
  constructor <;> rintro rfl <;> cases hc

lemma SpellsClock.length_eq (h : SpellsClock TwoDigits seconds clock) : clock.length = 5 := by
  obtain ⟨-, ⟨_, _, -, -, rfl, -⟩, -, ⟨_, _, -, -, rfl, -⟩⟩ := h
  rfl

/-- The seconds of hours and minutes. -/
def clock? (cs : List Char) : Option Int :=
  match Text.cutAt? ':' cs with
  | none => none
  | some (hours, minutes) =>
    match component? 24 hours, component? 60 minutes with
    | some h, some m => some ((h : Int) * 3600 + (m : Int) * 60)
    | _, _ => none

lemma clock?_eq_some_iff :
    clock? clock = some seconds ↔ SpellsClock (fun n => SpellsSigned n) seconds clock := by
  constructor
  · intro h
    rw [clock?] at h
    split at h
    · cases h
    · next hours minutes hcut =>
      split at h
      · next hhours hminutes =>
        cases h
        obtain ⟨rfl, -⟩ := Text.cutAt?_eq_some_iff.mp hcut
        obtain ⟨hh, hhours⟩ := component?_eq_some_iff.mp hhours
        obtain ⟨hm, hminutes⟩ := component?_eq_some_iff.mp hminutes
        exact ⟨hh, hhours, hm, hminutes⟩
      · cases h
  · rintro ⟨hh, hhours, hm, hminutes⟩
    rw [clock?, Text.cutAt?_eq_some_iff.mpr ⟨rfl, hhours.colon_notMem⟩]
    dsimp only
    rw [component?_eq_some_iff.mpr ⟨hh, hhours⟩, component?_eq_some_iff.mpr ⟨hm, hminutes⟩]

end Clock

/-! ### Signs -/

/-- A text without the sign that comes first. -/
def afterSign : List Char → List Char
  | '-' :: cs => cs
  | '+' :: cs => cs
  | cs => cs

section Sign

variable {sign : Int} {s rest : List Char}

lemma afterSign_append (hsign : SpellsSign sign s) (hbare : s = [] → Bare rest) :
    afterSign (s ++ rest) = rest := by
  cases hsign with
  | plus => rfl
  | minus => rfl
  | absent =>
    rw [List.nil_append, afterSign.eq_def]
    split
    · exact absurd rfl (hbare rfl '-' rfl).2
    · exact absurd rfl (hbare rfl '+' rfl).1
    · rfl

lemma SpellsSign.natAbs_mul (hsign : SpellsSign sign s) (seconds : Int) :
    (sign * seconds).natAbs = seconds.natAbs := by
  cases hsign <;> simp

lemma exists_sign (cs : List Char) :
    ∃ sign s rest, SpellsSign sign s ∧ (s = [] → Bare rest) ∧ cs = s ++ rest := by
  by_cases hbare : Bare cs
  · exact ⟨1, [], cs, .absent, fun _ => hbare, rfl⟩
  · simp only [Bare, not_forall] at hbare
    obtain ⟨c, hc, hsign⟩ := hbare
    obtain ⟨rest, rfl⟩ := List.head?_eq_some_iff.mp hc
    by_cases hplus : c = '+'
    · exact ⟨1, ['+'], rest, .plus, nofun, hplus ▸ rfl⟩
    · have hminus : c = '-' := not_not.mp fun hminus => hsign ⟨hplus, hminus⟩
      exact ⟨-1, ['-'], rest, .minus, nofun, hminus ▸ rfl⟩

/-- No name of UTC holds a colon. -/
lemma not_name_of_colon {cs : List Char} (h : ':' ∈ cs) :
    ¬(Text.lowerAscii cs = ['u', 't', 'c'] ∨ cs = ['Z']) := by
  rintro (hname | rfl)
  · have hmem : ':' ∈ Text.lowerAscii cs := List.mem_map_of_mem (f := Char.toLower) h
    rw [hname] at hmem
    exact absurd hmem (by decide)
  · exact absurd h (by decide)

lemma parse?_append (hsign : SpellsSign sign s) (hbare : s = [] → Bare rest)
    (hname : ¬(Text.lowerAscii (s ++ rest) = ['u', 't', 'c'] ∨ s ++ rest = ['Z'])) :
    parse? (s ++ rest) = (clock? rest).map (sign * ·) := by
  have hclock : (clock? rest).map (sign * ·) =
      match Text.cutAt? ':' rest with
      | none => none
      | some (hours, minutes) =>
        match component? 24 hours, component? 60 minutes with
        | some h, some m => some (sign * ((h : Int) * 3600 + (m : Int) * 60))
        | _, _ => none := by
    rw [clock?]
    split
    · rfl
    · split <;> rfl
  rw [hclock, parse?.eq_def, if_neg hname]
  cases hsign with
  | plus => rfl
  | minus => rfl
  | absent =>
    rw [List.nil_append]
    split
    next heq =>
      split at heq
      · exact absurd rfl (hbare rfl '-' rfl).2
      · exact absurd rfl (hbare rfl '+' rfl).1
      · cases heq
        rfl

end Sign

/-! ### Zones -/

section Zones

variable {offset : Int} {cs : List Char}

lemma IsZone.parse?_eq (h : IsZone offset cs) : parse? cs = some offset := by
  cases h with
  | utc hname => exact if_pos (.inl hname)
  | zulu => exact if_pos (.inr rfl)
  | offset hsign hclock =>
    rw [parse?_append hsign (fun _ => hclock.bare)
      (not_name_of_colon (List.mem_append_right _ hclock.colon_mem)),
      clock?_eq_some_iff.mpr hclock.signed]
    rfl

lemma IsLooseZone.colon_mem (h : IsLooseZone offset cs) : ':' ∈ cs := by
  obtain ⟨-, -, hclock, -⟩ := h
  exact List.mem_append_right _ hclock.colon_mem

lemma IsLooseZone.parse?_eq (h : IsLooseZone offset cs) : parse? cs = some offset := by
  have hname := not_name_of_colon h.colon_mem
  obtain ⟨hsign, hbare, hclock, -⟩ := h
  rw [parse?_append hsign hbare hname, clock?_eq_some_iff.mpr hclock]
  rfl

/-- What is read is the text of a zone, or read loosely. -/
lemma isZone_or_isLooseZone (h : parse? cs = some offset) :
    IsZone offset cs ∨ IsLooseZone offset cs := by
  by_cases hname : Text.lowerAscii cs = ['u', 't', 'c'] ∨ cs = ['Z']
  · have hzero : parse? cs = some 0 := if_pos hname
    obtain rfl := Option.some.inj (hzero.symm.trans h)
    rcases hname with hname | rfl
    · exact .inl (.utc hname)
    · exact .inl .zulu
  · obtain ⟨sign, s, rest, hsign, hbare, rfl⟩ := exists_sign cs
    rw [parse?_append hsign hbare hname] at h
    obtain ⟨seconds, hseconds, rfl⟩ := Option.map_eq_some_iff.mp h
    have hclock := clock?_eq_some_iff.mp hseconds
    by_cases htwo : ∃ seconds', SpellsClock TwoDigits seconds' rest
    · obtain ⟨seconds', htwo⟩ := htwo
      have hsame := clock?_eq_some_iff.mpr htwo.signed
      obtain rfl := Option.some.inj (hsame.symm.trans hseconds)
      exact .inl (.offset hsign htwo)
    · exact .inr (.offset hsign hbare ⟨hclock, fun seconds' h => htwo ⟨seconds', h⟩⟩)

/-- A zone is less than a day ahead of UTC or behind it. -/
lemma natAbs_lt_of_parse? (h : parse? cs = some offset) : offset.natAbs < 86400 := by
  have hoffset {sign seconds : Int} {number : Nat → List Char → Prop} {s clock : List Char}
      (hsign : SpellsSign sign s) (hclock : SpellsClock number seconds clock) :
      (sign * seconds).natAbs < 86400 := by
    have hbounds := hclock.bounds
    rw [hsign.natAbs_mul]
    omega
  rcases isZone_or_isLooseZone h with hzone | hzone
  · cases hzone with
    | utc => decide
    | zulu => decide
    | offset hsign hclock => exact hoffset hsign hclock
  · cases hzone with
    | offset hsign hbare hclock => exact hoffset hsign hclock.1

lemma IsLooseZone.not_isZone {offset' : Int} (h : IsLooseZone offset cs) :
    ¬IsZone offset' cs := by
  have hname := not_name_of_colon h.colon_mem
  intro hzone
  cases hzone with
  | utc hutc => exact hname (.inl hutc)
  | zulu => exact hname (.inr rfl)
  | @offset _ _ s clock hsign hclock =>
    generalize hcs : s ++ clock = cs at h
    obtain ⟨hsign', hbare', -, hloose⟩ := h
    have hrest := congrArg afterSign hcs
    rw [afterSign_append hsign fun _ => hclock.bare, afterSign_append hsign' hbare'] at hrest
    exact hloose _ (hrest ▸ hclock)

/-- The texts of zones are read as what they are, and apart from them just the loose ones are
read. -/
theorem parse?_isZone_iff (cs : List Char) (offset : Int) :
    (parse? cs = some offset ↔ IsZone offset cs ∨ IsLooseZone offset cs) ∧
      ((parse? cs = some offset ↔ IsZone offset cs) ↔ ¬IsLooseZone offset cs) := by
  have hread : parse? cs = some offset ↔ IsZone offset cs ∨ IsLooseZone offset cs := by
    refine ⟨isZone_or_isLooseZone, ?_⟩
    rintro (h | h)
    · exact h.parse?_eq
    · exact h.parse?_eq
  refine ⟨hread, ?_⟩
  rw [hread]
  constructor
  · intro hexact hloose
    exact hloose.not_isZone (hexact.mp (.inr hloose))
  · intro hloose
    exact or_iff_left hloose

end Zones

/-- Single digits are read, but make no zone. -/
theorem parse?_single_digits :
    parse? ['5', ':', '7'] = some 18420 ∧ ∀ offset, ¬IsZone offset ['5', ':', '7'] := by
  have hclock : clock? ['5', ':', '7'] = some 18420 := by decide
  have hloose : LooseClock 18420 ['5', ':', '7'] := by
    refine ⟨clock?_eq_some_iff.mp hclock, fun seconds h => ?_⟩
    have hlength := h.length_eq
    cases hlength
  have hzone : IsLooseZone (1 * 18420) ([] ++ ['5', ':', '7']) :=
    .offset .absent (fun _ => by simp [Bare]) hloose
  exact ⟨hzone.parse?_eq, fun _ => hzone.not_isZone⟩

end Zone

end GatedRelay
