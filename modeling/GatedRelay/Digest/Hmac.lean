import GatedRelay.Digest.Sha1
import GatedRelay.Digest.Sha2

/-!
Keyed digests. A key of any length is accepted: one longer than a block is digested first.
-/

namespace GatedRelay.Digest

inductive Hash
  | sha1
  | sha256
  | sha384
  | sha512
  deriving DecidableEq

namespace Hash

def blockSize : Hash → Nat
  | sha1 => 64
  | sha256 => 64
  | sha384 => 128
  | sha512 => 128

def digest : Hash → Bytes → Bytes
  | sha1 => Digest.sha1
  | sha256 => Digest.sha256
  | sha384 => Digest.sha384
  | sha512 => Digest.sha512

end Hash

/-- The key filled up with zeros to one block. -/
def blockKey (h : Hash) (key : Bytes) : Bytes :=
  let k := if h.blockSize < key.length then h.digest key else key
  k ++ List.replicate (h.blockSize - k.length) 0

def hmac (h : Hash) (key message : Bytes) : Bytes :=
  let k := blockKey h key
  h.digest (k.map (· ^^^ 0x5c) ++ h.digest (k.map (· ^^^ 0x36) ++ message))

end GatedRelay.Digest
