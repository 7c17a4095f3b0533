import GatedRelay.Net.IpAddress
import GatedRelay.Proofs.Numerals
import Mathlib.Tactic.Ring

/-!
# Texts of addresses

The text of an address is read back, whatever stands after it that is no part of an address.
-/

namespace GatedRelay.IpAddress

open GatedRelay.Numeral (decimal hexadecimal isDigitIn)

/-! ### Numbers -/

/-- No digit of the base comes first. -/
def NoDigit (base : Nat) (cs : List Char) : Prop := ∀ c ∈ cs.head?, isDigitIn base c = false

lemma NoDigit.takeWhile {base : Nat} {cs : List Char} (h : NoDigit base cs) :
    cs.takeWhile (isDigitIn base) = [] := by
  cases cs with
  | nil => rfl
  | cons c rest => rw [List.takeWhile_cons_of_neg (by simp [h c rfl])]

lemma NoDigit.dropWhile {base : Nat} {cs : List Char} (h : NoDigit base cs) :
    cs.dropWhile (isDigitIn base) = cs := by
  cases cs with
  | nil => rfl
  | cons c rest => rw [List.dropWhile_cons_of_neg (by simp [h c rfl])]

lemma noDigit_colon (base : Nat) (rest : List Char) : NoDigit base (':' :: rest) := by
  intro c hc
  cases hc
  rfl

lemma readNumber?_eq (base maxDigits limit : Nat) (leadingZeros : Bool) (cs : List Char) :
    readNumber? base maxDigits limit leadingZeros cs =
      if maxDigits < (cs.takeWhile (isDigitIn base)).length ∨
          (!leadingZeros) = true ∧ (cs.takeWhile (isDigitIn base)).head? = some '0' ∧
            1 < (cs.takeWhile (isDigitIn base)).length then none
      else
        match Numeral.read? base (cs.takeWhile (isDigitIn base)) with
        | some n => if n < limit then some (n, cs.dropWhile (isDigitIn base)) else none
        | none => none := by
  simp only [readNumber?, Bool.not_eq_true']
  rfl

lemma readNumber?_eq_none {base : Nat} {cs : List Char} (h : NoDigit base cs)
    (maxDigits limit : Nat) (leadingZeros : Bool) :
    readNumber? base maxDigits limit leadingZeros cs = none := by
  rw [readNumber?_eq, h.takeWhile]
  simp [Numeral.read?]

lemma rest_of_readNumber? {base maxDigits limit n : Nat} {leadingZeros : Bool}
    {cs rest : List Char}
    (h : readNumber? base maxDigits limit leadingZeros cs = some (n, rest)) :
    rest = cs.dropWhile (isDigitIn base) := by
  rw [readNumber?_eq] at h
  split_ifs at h
  split at h
  · split_ifs at h
    cases h
    rfl
  · cases h

/-- A number is read back with or without leading zeros, for it has none. -/
lemma readNumber?_write {base maxDigits limit n : Nat} (h : 2 ≤ base) (hbase : base ≤ 16)
    (hmax : 1 ≤ maxDigits) (hdigits : n < base ^ maxDigits) (hlimit : n < limit)
    (leadingZeros : Bool) {rest : List Char} (hrest : NoDigit base rest) :
    readNumber? base maxDigits limit leadingZeros (Numeral.write base h n ++ rest) =
      some (n, rest) := by
  have hall : ∀ c ∈ Numeral.write base h n, isDigitIn base c = true :=
    fun c hc => Numeral.isDigitIn_of_mem_write h hbase hc
  have htake : (Numeral.write base h n ++ rest).takeWhile (isDigitIn base) =
      Numeral.write base h n := by
    rw [List.takeWhile_append_of_pos hall, hrest.takeWhile, List.append_nil]
  have hdrop : (Numeral.write base h n ++ rest).dropWhile (isDigitIn base) = rest := by
    rw [List.dropWhile_append_of_pos hall, hrest.dropWhile]
  have hlength : (Numeral.write base h n).length ≤ maxDigits := by
    rw [Numeral.write, List.length_map]
    exact Numeral.length_digits_le h hmax hdigits
  have hguard : ¬(maxDigits < (Numeral.write base h n).length ∨
      (!leadingZeros) = true ∧ (Numeral.write base h n).head? = some '0' ∧
        1 < (Numeral.write base h n).length) := by
    rintro (hlong | ⟨-, hzero, hlong⟩)
    · omega
    · rw [Numeral.length_write_of_head h hbase hzero] at hlong
      omega
  rw [readNumber?_eq, htake, hdrop, if_neg hguard, Numeral.read?_write h hbase]
  exact if_pos hlimit

/-! ### Bits -/

/-- The digits of a number in a base, the most significant of so many first. -/
def digitsBelow (base x : Nat) : Nat → List Nat
  | 0 => []
  | k + 1 => x / base ^ k % base :: digitsBelow base x k

lemma foldl_digitsBelow (base x acc k : Nat) :
    (digitsBelow base x k).foldl (fun acc d => acc * base + d) acc =
      acc * base ^ k + x % base ^ k := by
  induction k generalizing acc with
  | zero => simp [digitsBelow, Nat.mod_one]
  | succ k ih =>
    rw [digitsBelow, List.foldl_cons, ih, Nat.mod_pow_succ, pow_succ]
    ring

lemma ofDigits_octets (bits : BitVec 32) : ofDigits 32 8 (octets bits) = bits := by
  have hdigits : octets bits = digitsBelow 256 bits.toNat 4 := by simp [octets, digitsBelow]
  apply BitVec.eq_of_toNat_eq
  rw [ofDigits, BitVec.toNat_ofNat, hdigits]
  refine (congrArg (· % 2 ^ 32) (foldl_digitsBelow 256 bits.toNat 0 4)).trans ?_
  have hbits := bits.isLt
  omega

lemma ofDigits_groups (bits : BitVec 128) : ofDigits 128 16 (groups bits) = bits := by
  have hdigits : groups bits = digitsBelow 65536 bits.toNat 8 := by simp [groups, digitsBelow]
  apply BitVec.eq_of_toNat_eq
  rw [ofDigits, BitVec.toNat_ofNat, hdigits]
  refine (congrArg (· % 2 ^ 128) (foldl_digitsBelow 65536 bits.toNat 0 8)).trans ?_
  have hbits := bits.isLt
  omega

/-! ### Octets -/

lemma intercalate_map_cons {α : Type} (f : α → List Char) (c : Char) (x : α) (xs : List α) :
    [c].intercalate ((x :: xs).map f) = f x ++ xs.flatMap fun y => c :: f y := by
  induction xs generalizing x with
  | nil => simp [List.intercalate]
  | cons y ys ih =>
    rw [List.map_cons, List.map_cons, List.intercalate_cons_cons, ← List.map_cons, ih]
    simp

lemma octets_eq (bits : BitVec 32) : octets bits =
    [bits.toNat / 0x1000000 % 256, bits.toNat / 0x10000 % 256, bits.toNat / 0x100 % 256,
      bits.toNat % 256] := by
  simp [octets]

lemma lt_of_mem_octets {bits : BitVec 32} {o : Nat} (ho : o ∈ octets bits) : o < 256 := by
  obtain ⟨shift, -, rfl⟩ := List.mem_map.mp ho
  exact Nat.mod_lt _ (by decide)

lemma readNumber?_decimal {o : Nat} (ho : o < 256) (leadingZeros : Bool) {rest : List Char}
    (hrest : NoDigit 10 rest) :
    readNumber? 10 3 256 leadingZeros (decimal o ++ rest) = some (o, rest) :=
  readNumber?_write (by decide) (by decide) (by decide) (by omega) ho leadingZeros hrest

lemma noDigit_octets (os : List Nat) {rest : List Char} (hrest : NoDigit 10 rest) :
    NoDigit 10 ((os.flatMap fun o => '.' :: decimal o) ++ rest) := by
  cases os with
  | nil => exact hrest
  | cons o os =>
    intro c hc
    cases hc
    rfl

lemma readOctets?_octets (g : Grammar) {os : List Nat} (hos : ∀ o ∈ os, o < 256)
    {rest : List Char} (hrest : NoDigit 10 rest) :
    readOctets? g os.length ((os.flatMap fun o => '.' :: decimal o) ++ rest) = some (os, rest) := by
  induction os with
  | nil => rfl
  | cons o os ih =>
    obtain ⟨ho, hos⟩ := List.forall_mem_cons.mp hos
    have hnumber := readNumber?_decimal ho g.leadingZeros (noDigit_octets os hrest)
    rw [List.flatMap_cons, List.cons_append, List.cons_append, List.append_assoc,
      List.length_cons, readOctets?, hnumber]
    dsimp only
    rw [ih hos]
    rfl

lemma readV4?_textV4 (g : Grammar) (bits : BitVec 32) {rest : List Char} (hrest : NoDigit 10 rest) :
    readV4? g (textV4 bits ++ rest) = some (octets bits, rest) := by
  have hlt : ∀ o ∈ octets bits, o < 256 := fun o => lt_of_mem_octets
  obtain ⟨o, os, heq, hlength⟩ : ∃ o os, octets bits = o :: os ∧ os.length = 3 :=
    ⟨_, _, rfl, rfl⟩
  rw [textV4]
  rw [heq] at hlt ⊢
  obtain ⟨ho, hos⟩ := List.forall_mem_cons.mp hlt
  have hoctets := readOctets?_octets g hos hrest
  rw [hlength] at hoctets
  rw [intercalate_map_cons, List.append_assoc, readV4?,
    readNumber?_decimal ho g.leadingZeros (noDigit_octets os hrest)]
  dsimp only
  rw [hoctets]
  rfl

/-- Where a number is not followed by a point, no octets can be read. -/
lemma readV4?_eq_none (g : Grammar) {number rest : List Char} (hnumber : '.' ∉ number)
    (hrest : NoDigit 10 rest) (hpoint : rest.head? ≠ some '.') :
    readV4? g (number ++ rest) = none := by
  rw [readV4?]
  split
  · next o after hread =>
    have hhead : after.head? ≠ some '.' := by
      rw [rest_of_readNumber? hread, List.dropWhile_append]
      split
      · rwa [hrest.dropWhile]
      · next hsome =>
        rw [List.head?_append_of_ne_nil _ (by simpa using hsome)]
        intro hc
        exact hnumber ((List.dropWhile_suffix _).subset (List.mem_of_mem_head? hc))
    rw [readOctets?]
    · rfl
    · rintro rest' rfl
      exact hhead rfl
  · rfl

/-! ### Groups -/

lemma lt_of_mem_groups {bits : BitVec 128} {v : Nat} (hv : v ∈ groups bits) : v < 65536 := by
  obtain ⟨shift, -, rfl⟩ := List.mem_map.mp hv
  exact Nat.mod_lt _ (by decide)

/-- What ends a run of groups: a gap, or anything that is no part of an address. -/
inductive EndsGroups : List Char → Prop
  | gap (rest : List Char) : EndsGroups (':' :: ':' :: rest)
  | nil : EndsGroups []
  | other {c : Char} (rest : List Char) : isHexDigit c = false → c ≠ '.' → c ≠ ':' →
      EndsGroups (c :: rest)

lemma isDigitIn_of_isHexDigit {c : Char} (hc : isHexDigit c = false) (base : Nat) :
    isDigitIn base c = false := by
  rw [isHexDigit, Option.isSome_eq_false_iff, Option.isNone_iff_eq_none] at hc
  rw [isDigitIn, hc]
  rfl

lemma EndsGroups.noDigit {rest : List Char} (h : EndsGroups rest) (base : Nat) :
    NoDigit base rest := by
  intro c hc
  cases h with
  | gap rest =>
    cases hc
    rfl
  | nil => cases hc
  | other rest hhex hpoint hcolon =>
    cases hc
    exact isDigitIn_of_isHexDigit hhex base

lemma EndsGroups.head_ne_point {rest : List Char} (h : EndsGroups rest) :
    rest.head? ≠ some '.' := by
  cases h with
  | gap rest => simp
  | nil => simp
  | other rest hhex hpoint hcolon => simpa using hpoint

/-- What stands where a group is due: all but the first follow a colon. -/
def groupText? (first : Bool) (cs : List Char) : Option (List Char) :=
  if first then some cs
  else
    match cs with
    | ':' :: rest => some rest
    | _ => none

lemma readGroups_succ (g : Grammar) (n : Nat) (first : Bool) (cs : List Char) :
    readGroups g (n + 1) first cs =
      match groupText? first cs with
      | none => ([], false, cs)
      | some body =>
        match (if n = 0 then none else readV4? g body) with
        | some ([a, b, c, d], rest) => ([a * 256 + b, c * 256 + d], true, rest)
        | _ =>
          match readNumber? 16 4 65536 true body with
          | some (v, rest) => (v :: (readGroups g n false rest).1, (readGroups g n false rest).2)
          | none => ([], false, cs) := rfl

section ReadGroups

variable {g : Grammar} {n : Nat} {first : Bool} {cs body : List Char}
  (hbody : groupText? first cs = some body)
include hbody

lemma readGroups_number (hoctets : readV4? g body = none) {v : Nat} {rest : List Char}
    (hv : readNumber? 16 4 65536 true body = some (v, rest)) :
    readGroups g (n + 1) first cs =
      (v :: (readGroups g n false rest).1, (readGroups g n false rest).2) := by
  rw [readGroups_succ, hbody]
  dsimp only
  rw [hoctets, ite_self, hv]

lemma readGroups_octets {a b c d : Nat} {rest : List Char}
    (hoctets : readV4? g body = some ([a, b, c, d], rest)) :
    readGroups g (n + 2) first cs = ([a * 256 + b, c * 256 + d], true, rest) := by
  rw [readGroups_succ, hbody]
  dsimp only
  rw [if_neg (Nat.succ_ne_zero n), hoctets]

lemma readGroups_nothing (hoctets : readV4? g body = none)
    (hnumber : readNumber? 16 4 65536 true body = none) :
    readGroups g (n + 1) first cs = ([], false, cs) := by
  rw [readGroups_succ, hbody]
  dsimp only
  rw [hoctets, ite_self, hnumber]

end ReadGroups

lemma readGroups_of_none (g : Grammar) (n : Nat) {first : Bool} {cs : List Char}
    (h : groupText? first cs = none) : readGroups g n first cs = ([], false, cs) := by
  cases n with
  | zero => rfl
  | succ n =>
    rw [readGroups_succ, h]

lemma readGroups_colon (g : Grammar) (n : Nat) {first : Bool} {cs rest : List Char}
    (h : groupText? first cs = some (':' :: rest)) : readGroups g n first cs = ([], false, cs) := by
  cases n with
  | zero => rfl
  | succ n =>
    exact readGroups_nothing h
      (readV4?_eq_none g List.not_mem_nil (noDigit_colon 10 rest) (by simp))
      (readNumber?_eq_none (noDigit_colon 16 rest) 4 65536 true)

lemma EndsGroups.readGroups {rest : List Char} (h : EndsGroups rest) (g : Grammar) (n : Nat)
    (first : Bool) : readGroups g n first rest = ([], false, rest) := by
  cases first with
  | true =>
    cases n with
    | zero => rfl
    | succ n =>
      exact readGroups_nothing rfl
        (readV4?_eq_none g List.not_mem_nil (h.noDigit 10) h.head_ne_point)
        (readNumber?_eq_none (h.noDigit 16) 4 65536 true)
  | false =>
    cases h with
    | gap rest => exact readGroups_colon g n rfl
    | nil => exact readGroups_of_none g n rfl
    | other rest hhex hpoint hcolon => exact readGroups_of_none g n (by simp [groupText?, hcolon])

lemma point_notMem_hexadecimal (v : Nat) : '.' ∉ hexadecimal v := by
  intro hmem
  have hdigit := Numeral.isDigitIn_of_mem_write (by decide) (by decide) hmem
  exact absurd hdigit (by decide)

/-- A group that goes on neither with a digit nor with a point is read. -/
lemma readGroups_hexadecimal {g : Grammar} {n v : Nat} {first : Bool} {cs rest : List Char}
    (hv : v < 65536) (hcs : groupText? first cs = some (hexadecimal v ++ rest))
    (hrest : ∀ base, NoDigit base rest) (hpoint : rest.head? ≠ some '.') :
    readGroups g (n + 1) first cs =
      (v :: (IpAddress.readGroups g n false rest).1, (IpAddress.readGroups g n false rest).2) :=
  readGroups_number hcs (readV4?_eq_none g (point_notMem_hexadecimal v) (hrest 10) hpoint)
    (readNumber?_write (by decide) (by decide) (by decide) (by omega) hv true (hrest 16))

section Run

variable (g : Grammar) {gs : List Nat} (hgs : ∀ v ∈ gs, v < 65536) {rest : List Char}
  (hrest : EndsGroups rest)

/-- Further groups, each after a colon. -/
def colonGroups (gs : List Nat) : List Char := gs.flatMap fun v => ':' :: hexadecimal v

include hrest in
lemma noDigit_colonGroups (base : Nat) : NoDigit base (colonGroups gs ++ rest) := by
  cases gs with
  | nil => exact hrest.noDigit base
  | cons v gs =>
    intro c hc
    cases hc
    rfl

include hrest in
lemma head_colonGroups_ne_point : (colonGroups gs ++ rest).head? ≠ some '.' := by
  cases gs with
  | nil => exact hrest.head_ne_point
  | cons v gs => simp [colonGroups]

include hgs hrest in
lemma readGroups_colonGroups {n : Nat} (hn : gs.length ≤ n) :
    readGroups g n false (colonGroups gs ++ rest) = (gs, false, rest) := by
  induction gs generalizing n with
  | nil => exact hrest.readGroups g n false
  | cons v gs ih =>
    obtain ⟨hv, hgs⟩ := List.forall_mem_cons.mp hgs
    rw [List.length_cons] at hn
    obtain ⟨m, rfl⟩ := Nat.exists_eq_add_of_le' (Nat.le_of_add_left_le hn)
    have hcs : groupText? false (colonGroups (v :: gs) ++ rest) =
        some (hexadecimal v ++ (colonGroups gs ++ rest)) := by simp [colonGroups, groupText?]
    rw [readGroups_hexadecimal hv hcs (noDigit_colonGroups hrest) (head_colonGroups_ne_point hrest),
      ih hgs (by omega)]

include hgs hrest in
lemma readGroups_groupsText {n : Nat} (hn : gs.length ≤ n) :
    readGroups g n true (groupsText gs ++ rest) = (gs, false, rest) := by
  cases gs with
  | nil => exact hrest.readGroups g n true
  | cons v gs =>
    obtain ⟨hv, hgs⟩ := List.forall_mem_cons.mp hgs
    rw [List.length_cons] at hn
    obtain ⟨m, rfl⟩ := Nat.exists_eq_add_of_le' (Nat.le_of_add_left_le hn)
    have hcs : groupText? true (groupsText (v :: gs) ++ rest) =
        some (hexadecimal v ++ (colonGroups gs ++ rest)) := by
      rw [groupsText, intercalate_map_cons, List.append_assoc]
      rfl
    rw [readGroups_hexadecimal hv hcs (noDigit_colonGroups hrest) (head_colonGroups_ne_point hrest),
      readGroups_colonGroups g hgs hrest (by omega)]

end Run

/-! ### Gaps -/

lemma takeWhile_zero (gs : List Nat) :
    gs.takeWhile (· == 0) = List.replicate (zeroRun gs) 0 := by
  rw [List.eq_replicate_iff]
  have hzero := List.all_eq_true.mp (List.all_takeWhile (p := (· == 0)) (l := gs))
  exact ⟨rfl, fun v hv => by simpa using hzero v hv⟩

/-- The groups in front of the longest run, the zeros of the run, and those after it. -/
lemma longestZeroRun_spec (gs : List Nat) :
    (longestZeroRun gs).1 + (longestZeroRun gs).2 ≤ gs.length ∧
      gs.take (longestZeroRun gs).1 ++ List.replicate (longestZeroRun gs).2 0 ++
        gs.drop ((longestZeroRun gs).1 + (longestZeroRun gs).2) = gs := by
  induction gs with
  | nil => exact ⟨Nat.le_refl 0, rfl⟩
  | cons v gs ih =>
    rw [longestZeroRun]
    dsimp only
    split_ifs with hlonger
    · have hfront : (v :: gs).takeWhile (· == 0) <+: v :: gs := List.takeWhile_prefix _
      have hdrop := List.prefix_iff_eq_append.mp hfront
      rw [takeWhile_zero, List.length_replicate] at hdrop
      refine ⟨?_, ?_⟩
      · rw [Nat.zero_add]
        exact hfront.length_le
      · rw [List.take_zero, List.nil_append, Nat.zero_add]
        exact hdrop
    · obtain ⟨hle, heq⟩ := ih
      refine ⟨?_, ?_⟩
      · rw [List.length_cons]
        omega
      · rw [List.take_succ_cons, Nat.add_right_comm, List.drop_succ_cons, List.cons_append,
          List.cons_append, heq]

/-! ### Whole addresses -/

lemma mapped?_eq_some {bits : BitVec 128} {b : BitVec 32} (h : mapped? bits = some b) :
    bits.toNat / 0x100000000 = 0xffff ∧ b.toNat = bits.toNat % 0x100000000 := by
  rw [mapped?] at h
  split_ifs at h with hfront
  cases h
  exact ⟨hfront, BitVec.toNat_ofNat ..⟩

/-- The groups of a mapped address end with the octets of the address that it stands for. -/
lemma groups_of_mapped {bits : BitVec 128} {b : BitVec 32} (h : mapped? bits = some b) :
    ∃ a1 a2 a3 a4, octets b = [a1, a2, a3, a4] ∧
      groups bits = [0, 0, 0, 0, 0, 0xffff, a1 * 256 + a2, a3 * 256 + a4] := by
  obtain ⟨hfront, hlow⟩ := mapped?_eq_some h
  refine ⟨_, _, _, _, octets_eq b, ?_⟩
  rw [hlow]
  simp only [groups, List.map_cons, List.map_nil, Nat.pow_eq, List.cons.injEq, and_true]
  omega

lemma readV6?_of_full {g : Grammar} {cs rest : List Char} {gs : List Nat} {octets : Bool}
    (h : readGroups g 8 true cs = (gs, octets, rest)) (hlength : gs.length = 8) :
    readV6? g cs = some (gs, rest) := by
  rw [readV6?, h]
  exact if_pos hlength

lemma readV6?_of_gap {g : Grammar} {cs middle rest : List Char} {head tail : List Nat}
    {octets : Bool} (hhead : readGroups g 8 true cs = (head, false, ':' :: ':' :: middle))
    (hlength : head.length ≠ 8)
    (htail : readGroups g (8 - g.fewestOmitted - head.length) true middle = (tail, octets, rest)) :
    readV6? g cs =
      some (head ++ List.replicate (8 - head.length - tail.length) 0 ++ tail, rest) := by
  rw [readV6?, hhead]
  dsimp only
  rw [if_neg hlength, if_neg Bool.false_ne_true]
  simp only [htail]

section Read

variable (bits : BitVec 128) {rest : List Char} (hrest : EndsGroups rest)
include hrest

lemma readV6?_mapped {b : BitVec 32} (h : mapped? bits = some b) :
    readV6? .strict ([':', ':', 'f', 'f', 'f', 'f', ':'] ++ textV4 b ++ rest) =
      some (groups bits, rest) := by
  obtain ⟨a1, a2, a3, a4, hoctets, hgroups⟩ := groups_of_mapped h
  have hread : readV4? .strict (textV4 b ++ rest) = some ([a1, a2, a3, a4], rest) := by
    rw [readV4?_textV4 .strict b (hrest.noDigit 10), hoctets]
  have hfront : hexadecimal 0xffff = ['f', 'f', 'f', 'f'] := by decide +kernel
  have htail : readGroups .strict 7 true (['f', 'f', 'f', 'f'] ++ ':' :: (textV4 b ++ rest)) =
      ([0xffff, a1 * 256 + a2, a3 * 256 + a4], true, rest) := by
    rw [readGroups_hexadecimal (v := 0xffff) (by decide) (by rw [hfront]; rfl)
      (fun base => noDigit_colon base _) (by simp), readGroups_octets rfl hread]
  rw [hgroups]
  exact readV6?_of_gap (readGroups_colon .strict 8 rfl) (by decide) htail

lemma readV6?_textV6 : readV6? .strict (textV6 bits ++ rest) = some (groups bits, rest) := by
  have hlt : ∀ v ∈ groups bits, v < 65536 := fun v => lt_of_mem_groups
  have hlength : (groups bits).length = 8 := rfl
  rw [textV6]
  split
  · next b hb => exact readV6?_mapped bits hrest hb
  · dsimp only
    obtain ⟨hle, hsplit⟩ := longestZeroRun_spec (groups bits)
    generalize longestZeroRun (groups bits) = run at hle hsplit ⊢
    generalize groups bits = gs at *
    split_ifs with hlong
    · have hheadlength : (gs.take run.1).length = run.1 := by
        rw [List.length_take]
        omega
      have hhead : readGroups .strict 8 true (groupsText (gs.take run.1) ++
          ':' :: ':' :: (groupsText (gs.drop (run.1 + run.2)) ++ rest)) =
            (gs.take run.1, false,
              ':' :: ':' :: (groupsText (gs.drop (run.1 + run.2)) ++ rest)) := by
        apply readGroups_groupsText .strict (fun v hv => hlt v (List.mem_of_mem_take hv)) (.gap _)
        rw [hheadlength]
        omega
      have hgap : 8 - run.1 - (gs.drop (run.1 + run.2)).length = run.2 := by
        rw [List.length_drop]
        omega
      have htail : readGroups .strict
          (8 - Grammar.strict.fewestOmitted - (gs.take run.1).length) true
          (groupsText (gs.drop (run.1 + run.2)) ++ rest) =
            (gs.drop (run.1 + run.2), false, rest) := by
        apply readGroups_groupsText .strict (fun v hv => hlt v (List.mem_of_mem_drop hv)) hrest
        have hone : Grammar.strict.fewestOmitted = 1 := rfl
        rw [hheadlength, List.length_drop, hone]
        omega
      have hread := readV6?_of_gap hhead (by omega) htail
      rw [hheadlength, hgap, hsplit] at hread
      rw [← hread]
      simp only [List.append_assoc, List.cons_append, List.nil_append]
    · exact readV6?_of_full (readGroups_groupsText .strict hlt hrest (by omega)) hlength

end Read

lemma readV4?_groupsText (g : Grammar) (gs : List Nat) {rest : List Char}
    (hrest : EndsGroups rest) : readV4? g (groupsText gs ++ rest) = none := by
  cases gs with
  | nil => exact readV4?_eq_none g List.not_mem_nil (hrest.noDigit 10) hrest.head_ne_point
  | cons v gs =>
    rw [groupsText, intercalate_map_cons, List.append_assoc]
    exact readV4?_eq_none g (point_notMem_hexadecimal v) (noDigit_colonGroups hrest 10)
      (head_colonGroups_ne_point hrest)

lemma readV4?_textV6 (g : Grammar) (bits : BitVec 128) {rest : List Char}
    (hrest : EndsGroups rest) : readV4? g (textV6 bits ++ rest) = none := by
  rw [textV6]
  split
  · next b hb =>
    exact readV4?_groupsText g [] (.gap (['f', 'f', 'f', 'f', ':'] ++ textV4 b ++ rest))
  · dsimp only
    split
    · rw [List.append_assoc, List.append_assoc]
      exact readV4?_groupsText g _ (.gap _)
    · exact readV4?_groupsText g _ hrest

theorem parse?_textV4 (bits : BitVec 32) : parse? (textV4 bits) = some (v4 bits) := by
  have hread : readV4? .strict (textV4 bits ++ []) = some (octets bits, []) :=
    readV4?_textV4 .strict bits nofun
  rw [List.append_nil] at hread
  rw [parse?, hread]
  dsimp only
  rw [ofDigits_octets]

/-- The text of an address is one only without anything after it. -/
theorem parse?_textV6_append (bits : BitVec 128) {rest : List Char} (hrest : EndsGroups rest) :
    parse? (textV6 bits ++ rest) = if rest = [] then some (v6 bits) else none := by
  rw [parse?, readV4?_textV6 .strict bits hrest, readV6?_textV6 bits hrest]
  cases rest with
  | nil =>
    dsimp only
    rw [ofDigits_groups, if_pos rfl]
  | cons c rest => rfl

/-! ### Characters -/

/-- Texts of numbers hold digits only. -/
lemma isHexDigit_of_mem_write {base n : Nat} (h : 2 ≤ base) (hbase : base ≤ 16) {c : Char}
    (hc : c ∈ Numeral.write base h n) : isHexDigit c = true := by
  cases hhex : isHexDigit c with
  | true => rfl
  | false =>
    rw [← Numeral.isDigitIn_of_mem_write h hbase hc, isDigitIn_of_isHexDigit hhex]

lemma mem_textV4 {bits : BitVec 32} {c : Char} (hc : c ∈ textV4 bits) :
    isHexDigit c = true ∨ c = '.' := by
  obtain ⟨o, os, heq⟩ : ∃ o os, octets bits = o :: os := ⟨_, _, rfl⟩
  rw [textV4, heq, intercalate_map_cons, List.mem_append, List.mem_flatMap] at hc
  rcases hc with hc | ⟨p, -, hc⟩
  · exact .inl (isHexDigit_of_mem_write _ (by decide) hc)
  · rcases List.mem_cons.mp hc with hc | hc
    · exact .inr hc
    · exact .inl (isHexDigit_of_mem_write _ (by decide) hc)

lemma mem_groupsText {gs : List Nat} {c : Char} (hc : c ∈ groupsText gs) :
    isHexDigit c = true ∨ c = ':' := by
  cases gs with
  | nil => cases hc
  | cons v gs =>
    rw [groupsText, intercalate_map_cons, List.mem_append, List.mem_flatMap] at hc
    rcases hc with hc | ⟨w, -, hc⟩
    · exact .inl (isHexDigit_of_mem_write _ (by decide) hc)
    · rcases List.mem_cons.mp hc with hc | hc
      · exact .inr hc
      · exact .inl (isHexDigit_of_mem_write _ (by decide) hc)

lemma mem_textV6 {bits : BitVec 128} {c : Char} (hc : c ∈ textV6 bits) :
    isHexDigit c = true ∨ c = '.' ∨ c = ':' := by
  rw [textV6] at hc
  split at hc
  · rcases List.mem_append.mp hc with hc | hc
    · have hfront : c = ':' ∨ c = 'f' ∨ c = ':' := by simpa using hc
      rcases hfront with rfl | rfl | rfl
      · exact .inr (.inr rfl)
      · exact .inl rfl
      · exact .inr (.inr rfl)
    · exact (mem_textV4 hc).imp_right .inl
  · dsimp only at hc
    split at hc
    · rw [List.mem_append, List.mem_append] at hc
      rcases hc with (hc | hc) | hc
      · exact (mem_groupsText hc).imp_right .inr
      · simp at hc
        exact .inr (.inr hc)
      · exact (mem_groupsText hc).imp_right .inr
    · exact (mem_groupsText hc).imp_right .inr

end GatedRelay.IpAddress
