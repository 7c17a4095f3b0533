import GatedRelay.Expr.Error

/-!
The operators on values. Whole numbers have 64 bits; a division by zero, or one whose result does
not fit, ends everything, and so does time arithmetic that leaves the range.
-/

namespace GatedRelay.Expr

open Attempt

namespace Value

def wholeDiv (f : Int64 → Int64 → Int64) (a b : Int64) : Eval Value :=
  if b = 0 ∨ (a = Int64.minValue ∧ b = -1) then abort else .ok (int (f a b))

def unsignedDiv (f : UInt64 → UInt64 → UInt64) (a b : UInt64) : Eval Value :=
  if b = 0 then abort else .ok (uint (f a b))

def onInts (op : Arithmetic) (a b : Int64) : Eval Value :=
  match op with
  | .add => .ok (int (a + b))
  | .sub => .ok (int (a - b))
  | .mul => .ok (int (a * b))
  | .div => wholeDiv (· / ·) a b
  | .rem => wholeDiv (· % ·) a b

def onUInts (op : Arithmetic) (a b : UInt64) : Eval Value :=
  match op with
  | .add => .ok (uint (a + b))
  | .sub => .ok (uint (a - b))
  | .mul => .ok (uint (a * b))
  | .div => unsignedDiv (· / ·) a b
  | .rem => unsignedDiv (· % ·) a b

def onDoubles (op : Arithmetic) (a b : Double) : Value :=
  match op with
  | .add => double (a.add b)
  | .sub => double (a.sub b)
  | .mul => double (a.mul b)
  | .div => double (a.div b)
  | .rem => double (a.rem b)

/-- A whole number of either kind, or a double, as a double. -/
def asDouble? : Value → Option Double
  | double d => some d
  | int i => some (.ofInt i.toInt)
  | uint u => some (.ofNat u.toNat)
  | _ => none

def isDouble : Value → Bool
  | double _ => true
  | _ => false

/-- Numbers of the same kind, or of which one is a double. -/
def arithmeticOnNumbers? (op : Arithmetic) (a b : Value) : Option (Eval Value) :=
  match a, b with
  | int x, int y => some (onInts op x y)
  | uint x, uint y => some (onUInts op x y)
  | a, b =>
    if a.isDouble || b.isDouble then
      match a.asDouble?, b.asDouble? with
      | some x, some y => some (.ok (onDoubles op x y))
      | _, _ => none
    else none

/-- The result of an operator at a place, where a list or map that it makes is made. -/
def arithmetic (p : Place) (op : Arithmetic) (a b : Value) : Eval Value :=
  match arithmeticOnNumbers? op a b with
  | some r => r
  | none =>
    match op, a, b with
    | .add, string x, string y => .ok (string (x ++ y))
    | .add, list _ xs, list _ ys => .ok (list (some p) (xs ++ ys))
    | .add, map _ xs, map _ ys => .ok (map (some p) (Entries.ofList (xs ++ ys)))
    | .add, duration x, duration y => orAbort ((Duration.ofNanos? (x.nanos + y.nanos)).map duration)
    | .add, timestamp t, duration d => orAbort ((t.add? d).map timestamp)
    | .add, duration d, timestamp t => orAbort ((t.add? d).map timestamp)
    | .sub, duration x, duration y => orAbort ((Duration.ofNanos? (x.nanos - y.nanos)).map duration)
    | .sub, timestamp t, duration d => orAbort ((t.add? ⟨-d.nanos⟩).map timestamp)
    | .sub, timestamp s, timestamp t => orAbort ((s.since? t).map duration)
    | op, a, b => fail (.badBinary op a b)

/-- The value of a condition that an order has to meet. -/
def ordered (test : Ordering → Bool) (a b : Value) : Eval Value :=
  match compare? a b with
  | some o => .ok (bool (test o))
  | none => fail (.notComparable a b)

/-- Whether a value occurs in a string, in a list or among the keys of a map. -/
def isIn (a b : Value) : Eval Value :=
  match a, b with
  | string x, string y => .ok (bool (Text.occursIn x.toList y.toList))
  | a, list _ items => .ok (bool (items.any fun item => item.equals a))
  | a, map _ entries =>
    .ok (bool (match a.key? with
      | some k => Entries.hasKey k entries
      | none => false))
  | a, b => fail (.notComparable a b)

def relation (op : Relation) (a b : Value) : Eval Value :=
  match op with
  | .less => ordered (· == .lt) a b
  | .lessEq => ordered (· != .gt) a b
  | .greater => ordered (· == .gt) a b
  | .greaterEq => ordered (· != .lt) a b
  | .equal => .ok (bool (equals b a))
  | .notEqual => .ok (bool (!equals b a))
  | .isIn => isIn a b

def unary (op : UnaryOp) (v : Value) : Eval Value :=
  match op, v with
  | .not, v => .ok (bool (!v.isTruthy))
  | .notNot, v => .ok (bool v.isTruthy)
  | .minus, int i => .ok (int (-i))
  | .minus, double d => .ok (double d.neg)
  | .minusMinus, int i => .ok (int i)
  | .minusMinus, uint u => .ok (uint u)
  | .minusMinus, double d => .ok (double d)
  | op, v => fail (.badUnary op v)

/-- The ASCII character at a byte offset of a text, if there is one. -/
def asciiAt? (s : String) (i : Int64) : Option String :=
  if i < 0 then none
  else
    match (Utf8.ofString s)[i.toInt.toNat]? with
    | some b => if b < 0x80 then some (String.singleton (Char.ofNat b.toNat)) else none
    | none => none

/-- What stands at an index; null where nothing does. -/
def index (target i : Value) : Eval Value :=
  match target, i with
  | list _ items, int n => .ok (if n < 0 then null else (items[n.toInt.toNat]?).getD null)
  | string s, int n => .ok ((asciiAt? s n).elim null string)
  | map _ entries, i =>
    match i.key? with
    | some k => .ok ((Entries.lookup? k entries).getD null)
    | none => fail (.badMapIndex i)
  | list _ _, i => fail (.badListIndex i)
  | target, i => fail (.badIndex target i)

end Value

end GatedRelay.Expr
