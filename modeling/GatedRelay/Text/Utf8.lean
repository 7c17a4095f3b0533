/-!
UTF-8: the bytes of a text, and reading bytes that may be broken. Reading takes one character
or one broken sequence at a time, so strict and lossy decoding share it.
-/

namespace GatedRelay

abbrev Bytes := List UInt8

namespace Utf8

def encode (cs : List Char) : Bytes := cs.flatMap String.utf8EncodeChar

def ofString (s : String) : Bytes := encode s.toList

/-- The six payload bits of a continuation byte that lies in the given range. -/
def continuation (lo hi : UInt8) : Bytes → Option (Nat × Bytes)
  | [] => none
  | b :: rest => if lo ≤ b ∧ b ≤ hi then some (b.toNat % 64, rest) else none

theorem length_of_continuation {lo hi : UInt8} {bs rest : Bytes} {n : Nat}
    (h : continuation lo hi bs = some (n, rest)) : rest.length < bs.length := by
  cases bs with
  | nil => simp [continuation] at h
  | cons b r => simp only [continuation] at h; split at h <;> simp_all

/-- The range that the byte after a lead byte has to lie in: it excludes overlong forms,
surrogates and code points beyond the last plane. -/
def secondRange (lead : UInt8) : UInt8 × UInt8 :=
  if lead = 0xE0 then (0xA0, 0xBF)
  else if lead = 0xED then (0x80, 0x9F)
  else if lead = 0xF0 then (0x90, 0xBF)
  else if lead = 0xF4 then (0x80, 0x8F)
  else (0x80, 0xBF)

/-- Reads the character that starts with `lead`, or `none` for the longest beginning of one
that no continuation completes; with it what follows. -/
def read (lead : UInt8) (rest : Bytes) : Option Char × Bytes :=
  if lead < 0x80 then (some (Char.ofNat lead.toNat), rest)
  else if lead < 0xC2 ∨ 0xF4 < lead then (none, rest)
  else
    let (lo, hi) := secondRange lead
    match continuation lo hi rest with
    | none => (none, rest)
    | some (b, rest₂) =>
      if lead < 0xE0 then (some (Char.ofNat (lead.toNat % 32 * 64 + b)), rest₂)
      else
        match continuation 0x80 0xBF rest₂ with
        | none => (none, rest₂)
        | some (c, rest₃) =>
          if lead < 0xF0 then (some (Char.ofNat ((lead.toNat % 16 * 64 + b) * 64 + c)), rest₃)
          else
            match continuation 0x80 0xBF rest₃ with
            | none => (none, rest₃)
            | some (d, rest₄) =>
              (some (Char.ofNat (((lead.toNat % 8 * 64 + b) * 64 + c) * 64 + d)), rest₄)

theorem length_read_le (lead : UInt8) (rest : Bytes) : (read lead rest).2.length ≤ rest.length := by
  unfold read
  split
  · exact Nat.le_refl _
  · split
    · exact Nat.le_refl _
    · dsimp only
      split
      · exact Nat.le_refl _
      · rename_i h₂
        have l₂ := length_of_continuation h₂
        split
        · exact Nat.le_of_lt l₂
        · split
          · exact Nat.le_of_lt l₂
          · rename_i h₃
            have l₃ := length_of_continuation h₃
            split
            · simp only; omega
            · split
              · simp only; omega
              · rename_i h₄
                have l₄ := length_of_continuation h₄
                simp only; omega

/-- The characters of the bytes in order, with `none` for each broken sequence. -/
def pieces : Bytes → List (Option Char)
  | [] => []
  | b :: rest => (read b rest).1 :: pieces (read b rest).2
termination_by bs => bs.length
decreasing_by exact Nat.lt_succ_of_le (length_read_le b rest)

/-- The text of well-formed bytes. -/
def decode? (bs : Bytes) : Option (List Char) := (pieces bs).mapM id

/-- Every broken sequence becomes one replacement character. -/
def decodeLossy (bs : Bytes) : String :=
  String.ofList ((pieces bs).map fun c => c.getD '\uFFFD')

end Utf8

end GatedRelay
