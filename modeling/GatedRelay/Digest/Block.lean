import GatedRelay.Text.Utf8

/-!
What digests share: padding a message to whole blocks, cutting it into blocks, and reading a
block as big-endian words.
-/

namespace GatedRelay.Digest

/-- The lowest `n` bytes of a number, most significant first. -/
def bigEndian : Nat → Nat → Bytes
  | 0, _ => []
  | n + 1, v => bigEndian n (v / 256) ++ [UInt8.ofNat (v % 256)]

/-- A one bit, then zeros, then the length in bits, so that whole blocks come out. -/
def pad (blockSize lengthSize : Nat) (message : Bytes) : Bytes :=
  let used := (message.length + 1 + lengthSize) % blockSize
  message ++ 0x80 :: List.replicate ((blockSize - used) % blockSize) 0 ++
    bigEndian lengthSize (8 * message.length)

/-- Cuts into pieces of `n + 1` bytes each. -/
def chunks (n : Nat) (bs : Bytes) : List Bytes :=
  match bs with
  | [] => []
  | b :: rest => (b :: rest.take n) :: chunks n (rest.drop n)
termination_by bs.length
decreasing_by simp only [List.length_drop, List.length_cons]; omega

def blocks (blockSize : Nat) (bs : Bytes) : List Bytes := chunks (blockSize - 1) bs

def number (bs : Bytes) : Nat := bs.foldl (fun acc b => acc * 256 + b.toNat) 0

def words32 (block : Bytes) : List UInt32 := (chunks 3 block).map fun bs => UInt32.ofNat (number bs)

def words64 (block : Bytes) : List UInt64 := (chunks 7 block).map fun bs => UInt64.ofNat (number bs)

/-- Prolongs a message schedule; the rule sees the words so far, the latest first. -/
def extendReversed {α : Type} (next : List α → α) : Nat → List α → List α
  | 0, w => w
  | n + 1, w => extendReversed next n (next w :: w)

def extend {α : Type} (next : List α → α) (n : Nat) (w : List α) : List α :=
  (extendReversed next n w.reverse).reverse

end GatedRelay.Digest
