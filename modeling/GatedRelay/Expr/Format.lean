import GatedRelay.Expr.Value
import GatedRelay.Text.Hex

/-!
Formatted text: a template in which directives stand for arguments. `%s` takes any value, `%d`
whole numbers, `%f` and `%e` numbers with a precision, `%x`, `%X`, `%o` and `%b` whole numbers in
other bases; `%%` is a percent sign. Every argument has to be used.
-/

namespace GatedRelay.Expr.Format

inductive Error
  | badPrecision
  | unfinished
  | missingArgument (verb : Char)
  | unusedArguments (supplied : Nat)
  | notANumber (verb : Char) (kind : String)
  | unsuitable (verb : Char) (kind : String)
  /-- A number with more places than can be written. -/
  | precisionOverflow
  deriving DecidableEq

def Error.message : Error → String
  | badPrecision => "invalid precision after '%.': *"
  | unfinished => "format string ends with '%'"
  | missingArgument verb => s!"missing argument for '%{verb}'"
  | unusedArguments supplied =>
    s!"format string uses fewer than the {Numeral.decimalString supplied} arguments supplied"
  | notANumber verb kind => s!"'%{verb}' expects a number, found {kind}"
  | unsuitable verb kind => s!"cannot format {kind} with '%{verb}'"
  | precisionOverflow => ""

/-- The parts of a template. A template that breaks off ends in the reason. -/
inductive Piece
  | char (c : Char)
  | value (precision : Option Nat) (verb : Char)
  | broken (e : Error)
  deriving DecidableEq

/-- The precision that starts with a point: digits that make up a 64-bit number. -/
def precision? (cs : List Char) : Except Error (Option Nat) :=
  match cs with
  | '.' :: rest =>
    match Numeral.read? 10 (rest.takeWhile Numeral.isDigit) with
    | some n => if n < 0x10000000000000000 then .ok (some n) else .error .badPrecision
    | none => .error .badPrecision
  | _ => .ok none

/-- What follows the precision. -/
def afterPrecision (cs : List Char) : List Char :=
  match cs with
  | '.' :: rest => rest.dropWhile Numeral.isDigit
  | _ => cs

theorem length_afterPrecision_le (cs : List Char) : (afterPrecision cs).length ≤ cs.length := by
  unfold afterPrecision
  split
  · exact Nat.le_succ_of_le (List.dropWhile_suffix _).length_le
  · exact Nat.le_refl _

/-- Cuts a template into its parts. -/
def pieces : List Char → List Piece
  | [] => []
  | c :: rest =>
    if c ≠ '%' then .char c :: pieces rest
    else
      match precision? rest with
      | .error e => [.broken e]
      | .ok precision =>
        match _h : afterPrecision rest with
        | [] => [.broken .unfinished]
        | verb :: rest' =>
          (if verb = '%' then .char '%' else .value precision verb) :: pieces rest'
termination_by cs => cs.length
decreasing_by
  · simp
  · have := length_afterPrecision_le rest
    rw [_h] at this
    simp only [List.length_cons] at this ⊢
    omega

/-- The most places that a number can be written with. -/
def maxPlaces : Nat := 65535

def double? : Value → Option Double
  | .double d => some d
  | .int i => some (.ofInt i.toInt)
  | .uint u => some (.ofNat u.toNat)
  | _ => none

def upper (verb : Char) (cs : List Char) : List Char :=
  if verb = 'X' then cs.map Char.toUpper else cs

/-- Digits in the base that a verb names. -/
def inBase (verb : Char) (n : Nat) : List Char :=
  if verb = 'o' then Numeral.write 8 (by decide) n
  else if verb = 'b' then Numeral.write 2 (by decide) n
  else upper verb (Numeral.hexadecimal n)

def isBaseVerb (verb : Char) : Bool := verb = 'x' || verb = 'X' || verb = 'o' || verb = 'b'

/-- The text of one argument. -/
def argument (precision : Option Nat) (verb : Char) (v : Value) : Except Error (List Char) :=
  if verb = 's' then .ok v.display
  else if verb = 'f' ∨ verb = 'e' then
    match double? v with
    | none => .error (.notANumber verb v.kindName)
    | some d =>
      let places := precision.getD 6
      if maxPlaces < places then .error .precisionOverflow
      else .ok (if verb = 'f' then d.fixed places else d.exponential places)
  else
    match v with
    | .int i =>
      if verb = 'd' then .ok (Numeral.decimalInt i.toInt)
      else if isBaseVerb verb then
        let digits := inBase verb i.toInt.natAbs
        .ok (if i.toInt < 0 then '-' :: digits else digits)
      else .error (.unsuitable verb v.kindName)
    | .uint u =>
      if verb = 'd' then .ok (Numeral.decimal u.toNat)
      else if isBaseVerb verb then .ok (inBase verb u.toNat)
      else .error (.unsuitable verb v.kindName)
    | .string s =>
      if verb = 'x' ∨ verb = 'X' then .ok (upper verb (Hex.encode (Utf8.ofString s)))
      else .error (.unsuitable verb v.kindName)
    | .bytes bs =>
      if verb = 'x' ∨ verb = 'X' then .ok (upper verb (Hex.encode bs))
      else .error (.unsuitable verb v.kindName)
    | v => .error (.unsuitable verb v.kindName)

/-- Fills the parts of a template from the left; `supplied` is the number of all arguments. -/
def fill (supplied : Nat) : List Piece → List Value → Except Error (List Char)
  | [], [] => .ok []
  | [], _ :: _ => .error (.unusedArguments supplied)
  | .char c :: ps, args => (fill supplied ps args).map (c :: ·)
  | .broken e :: _, _ => .error e
  | .value _ verb :: _, [] => .error (.missingArgument verb)
  | .value precision verb :: ps, a :: args =>
    match argument precision verb a with
    | .error e => .error e
    | .ok text => (fill supplied ps args).map (text ++ ·)

def format (template : List Char) (args : List Value) : Except Error (List Char) :=
  fill args.length (pieces template) args

end GatedRelay.Expr.Format
