/-!
Occurrences of one text in another: the first, the last, and the pieces between all of them,
taken from the left without overlap. A search goes over characters or over bytes, and a position
counts what the search goes over.
-/

namespace GatedRelay.Text

/-- Where the first occurrence of the needle starts. -/
def indexOf? {α : Type} [BEq α] (needle : List α) : List α → Option Nat
  | [] => if needle.isEmpty then some 0 else none
  | c :: rest =>
    if needle.isPrefixOf (c :: rest) then some 0 else (indexOf? needle rest).map (· + 1)

/-- Where the last occurrence of the needle starts. -/
def lastIndexOf? {α : Type} [BEq α] (needle : List α) : List α → Option Nat
  | [] => if needle.isEmpty then some 0 else none
  | c :: rest =>
    match lastIndexOf? needle rest with
    | some i => some (i + 1)
    | none => if needle.isPrefixOf (c :: rest) then some 0 else none

/-- The offsets in bytes at which the characters of a text start, the first one at the given
offset. -/
def charStarts (offset : Nat) : List Char → List Nat
  | [] => []
  | c :: rest => offset :: charStarts (offset + c.utf8Size) rest

/-- The number of characters that start before an offset in bytes. -/
def charPosition (text : List Char) (offset : Nat) : Nat :=
  ((charStarts 0 text).takeWhile fun start => start < offset).length

def occursIn (needle text : List Char) : Bool := (indexOf? needle text).isSome

/-- What stands before and after the first occurrence of the needle. -/
def breakOn (needle text : List Char) : Option (List Char × List Char) :=
  (indexOf? needle text).map fun i => (text.take i, text.drop (i + needle.length))

theorem length_of_breakOn {needle text before after : List Char} (hn : needle ≠ [])
    (h : breakOn needle text = some (before, after)) : after.length < text.length := by
  unfold breakOn at h
  obtain ⟨i, hi, heq⟩ := Option.map_eq_some_iff.1 h
  obtain ⟨-, rfl⟩ := Prod.mk.inj heq
  have hpos : 0 < needle.length := List.length_pos_iff.2 hn
  have ht : 0 < text.length := by
    cases text with
    | nil => cases needle with
      | nil => exact absurd rfl hn
      | cons n ns => simp [indexOf?] at hi
    | cons c rest => simp
  rw [List.length_drop]
  omega

/-- The pieces between the occurrences of a needle that is not empty. -/
def splitOnNonempty (needle : List Char) (hn : needle ≠ []) (text : List Char) : List (List Char) :=
  match _h : breakOn needle text with
  | none => [text]
  | some (before, after) => before :: splitOnNonempty needle hn after
termination_by text.length
decreasing_by exact length_of_breakOn hn _h

/-- The pieces between the occurrences of the needle. The empty needle occurs at every
boundary, so it leaves each character alone and an empty piece at both ends. -/
def split (needle text : List Char) : List (List Char) :=
  if h : needle = [] then [] :: text.map (fun c => [c]) ++ [[]] else splitOnNonempty needle h text

def join (separator : List Char) (parts : List (List Char)) : List Char :=
  separator.intercalate parts

/-- A text in which the replacement stands for each occurrence of a needle that is not empty. So
many of the next characters belong to an occurrence that is replaced already. -/
def replaceAfter (needle replacement : List Char) : (passed : Nat) → List Char → List Char
  | _, [] => []
  | passed + 1, _ :: rest => replaceAfter needle replacement passed rest
  | 0, c :: rest =>
    if needle.isPrefixOf (c :: rest) then
      replacement ++ replaceAfter needle replacement (needle.length - 1) rest
    else c :: replaceAfter needle replacement 0 rest

/-- A text with the replacement in the place of each occurrence of the needle. The empty needle
occurs at every boundary. -/
def replace (needle replacement text : List Char) : List Char :=
  if needle = [] then replacement ++ text.flatMap fun c => c :: replacement
  else replaceAfter needle replacement 0 text

/-- What stands before and after the first occurrence of a character. -/
def cutAt? (c : Char) : List Char → Option (List Char × List Char)
  | [] => none
  | x :: rest => if x = c then some ([], rest) else (cutAt? c rest).map fun p => (x :: p.1, p.2)

/-- What stands before and after the last occurrence of a character. -/
def cutAtLast? (c : Char) : List Char → Option (List Char × List Char)
  | [] => none
  | x :: rest =>
    match cutAtLast? c rest with
    | some p => some (x :: p.1, p.2)
    | none => if x = c then some ([], rest) else none

theorem cutAt?_eq_some_iff {c : Char} {cs before after : List Char} :
    cutAt? c cs = some (before, after) ↔ cs = before ++ c :: after ∧ c ∉ before := by
  induction cs generalizing before with
  | nil => simp [cutAt?]
  | cons x rest ih =>
    by_cases hx : x = c
    · cases before with
      | nil => simp [cutAt?, hx]
      | cons b before => grind [cutAt?]
    · cases before with
      | nil => simp [cutAt?, hx]
      | cons b before =>
        have hcut : cutAt? c (x :: rest) = some (b :: before, after) ↔
            x = b ∧ cutAt? c rest = some (before, after) := by
          rw [cutAt?, if_neg hx, Option.map_eq_some_iff]
          grind
        rw [hcut, ih]
        grind

theorem cutAtLast?_eq_none_iff {c : Char} {cs : List Char} : cutAtLast? c cs = none ↔ c ∉ cs := by
  induction cs with
  | nil => simp [cutAtLast?]
  | cons x rest ih => grind [cutAtLast?]

theorem cutAtLast?_eq_some_iff {c : Char} {cs before after : List Char} :
    cutAtLast? c cs = some (before, after) ↔ cs = before ++ c :: after ∧ c ∉ after := by
  induction cs generalizing before with
  | nil => simp [cutAtLast?]
  | cons x rest ih =>
    cases before with
    | nil => grind [cutAtLast?, cutAtLast?_eq_none_iff]
    | cons b before => grind [cutAtLast?, cutAtLast?_eq_none_iff]

/-- A text without the slashes at its end. -/
def dropRightSlashes (s : String) : String :=
  String.ofList ((s.toList.reverse.dropWhile (· = '/')).reverse)

def lowerAscii (cs : List Char) : List Char := cs.map Char.toLower

def upperAscii (cs : List Char) : List Char := cs.map Char.toUpper

end GatedRelay.Text
