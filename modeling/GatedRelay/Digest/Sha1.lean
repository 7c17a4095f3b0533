import GatedRelay.Digest.Block

/-!
The digest SHA-1: eighty rounds on five words, in four groups of twenty.
-/

namespace GatedRelay.Digest

structure Words5 where
  a : UInt32
  b : UInt32
  c : UInt32
  d : UInt32
  e : UInt32

def rotl32 (x : UInt32) (n : UInt32) : UInt32 := (x <<< n) ||| (x >>> (32 - n))

/-- The mixing function and the constant of a round. -/
def sha1Mix (round : Nat) (s : Words5) : UInt32 × UInt32 :=
  if round < 20 then ((s.b &&& s.c) ||| ((s.b ^^^ 0xffffffff) &&& s.d), 0x5a827999)
  else if round < 40 then (s.b ^^^ s.c ^^^ s.d, 0x6ed9eba1)
  else if round < 60 then ((s.b &&& s.c) ||| (s.b &&& s.d) ||| (s.c &&& s.d), 0x8f1bbcdc)
  else (s.b ^^^ s.c ^^^ s.d, 0xca62c1d6)

def sha1Round (s : Words5) (wi : UInt32 × Nat) : Words5 :=
  let (f, k) := sha1Mix wi.2 s
  ⟨rotl32 s.a 5 + f + s.e + k + wi.1, s.a, rotl32 s.b 30, s.c, s.d⟩

def sha1Scheduled (w : List UInt32) : UInt32 :=
  rotl32 (w.getD 2 0 ^^^ w.getD 7 0 ^^^ w.getD 13 0 ^^^ w.getD 15 0) 1

def sha1Compress (s : Words5) (block : Bytes) : Words5 :=
  let w := extend sha1Scheduled 64 (words32 block)
  let t := w.zipIdx.foldl sha1Round s
  ⟨s.a + t.a, s.b + t.b, s.c + t.c, s.d + t.d, s.e + t.e⟩

def sha1Start : Words5 := ⟨0x67452301, 0xefcdab89, 0x98badcfe, 0x10325476, 0xc3d2e1f0⟩

def sha1 (message : Bytes) : Bytes :=
  let s := (blocks 64 (pad 64 8 message)).foldl sha1Compress sha1Start
  [s.a, s.b, s.c, s.d, s.e].flatMap (bigEndian 4 ·.toNat)

end GatedRelay.Digest
