/-!
# UTF-8

Reads characters from bytes.  The first byte of a character fixes how many more
belong to it and where the next of them has to lie, so that no character has a
second, longer notation and no code point is left that is no character.
-/

namespace Criteria

namespace Utf8

/-- Why bytes are no text. -/
inductive Fault where
  | startByte
  | continuationByte
  | endOfData
  deriving DecidableEq, Inhabited

namespace Fault

def reason : Fault → String
  | .startByte => "invalid start byte"
  | .continuationByte => "invalid continuation byte"
  | .endOfData => "unexpected end of data"

end Fault

/-- A character that is not complete: its code so far, how many bytes it lacks,
and the range of the next one. -/
structure Begun where
  code : Nat
  lacking : Nat
  low : Nat
  high : Nat

/-- What a first byte begins, if it can stand first and is no character alone. -/
def begun? (byte : Nat) : Option Begun :=
  if 0xC2 ≤ byte ∧ byte ≤ 0xDF then some ⟨byte - 0xC0, 1, 0x80, 0xBF⟩
  else if byte = 0xE0 then some ⟨0, 2, 0xA0, 0xBF⟩
  else if byte = 0xED then some ⟨0xD, 2, 0x80, 0x9F⟩
  else if 0xE1 ≤ byte ∧ byte ≤ 0xEF then some ⟨byte - 0xE0, 2, 0x80, 0xBF⟩
  else if byte = 0xF0 then some ⟨0, 3, 0x90, 0xBF⟩
  else if byte = 0xF4 then some ⟨4, 3, 0x80, 0x8F⟩
  else if 0xF1 ≤ byte ∧ byte ≤ 0xF3 then some ⟨byte - 0xF0, 3, 0x80, 0xBF⟩
  else none

/-- Reads the characters of bytes, the first of them possibly begun before. -/
def decodeFrom : Option Begun → List UInt8 → Except Fault (List Char)
  | none, [] => .ok []
  | some _, [] => .error .endOfData
  | none, byte :: bytes =>
      if byte.toNat < 0x80 then do
        let chars ← decodeFrom none bytes
        return Char.ofNat byte.toNat :: chars
      else
        match begun? byte.toNat with
        | some begun => decodeFrom (some begun) bytes
        | none => .error .startByte
  | some begun, byte :: bytes =>
      if byte.toNat < begun.low ∨ begun.high < byte.toNat then .error .continuationByte
      else
        let code := begun.code * 64 + (byte.toNat - 0x80)
        if begun.lacking ≤ 1 then do
          let chars ← decodeFrom none bytes
          return Char.ofNat code :: chars
        else decodeFrom (some ⟨code, begun.lacking - 1, 0x80, 0xBF⟩) bytes

def decode (bytes : List UInt8) : Except Fault (List Char) :=
  decodeFrom none bytes

end Utf8

end Criteria
