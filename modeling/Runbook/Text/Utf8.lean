/-!
# Text out of bytes

Bytes that are no UTF-8 are read as replacement characters, one for each longest start of a
character that is cut off or continues wrongly.
-/

namespace Runbook.Text

/-- What stands for bytes that are no text. -/
def replacementChar : Char := '\ufffd'

/-- The number of bytes behind a first byte, and the range of the first of them. -/
def continuation? (b : Nat) : Option (Nat × Nat × Nat) :=
  if 0xC2 ≤ b ∧ b ≤ 0xDF then some (1, 0x80, 0xBF)
  else if b = 0xE0 then some (2, 0xA0, 0xBF)
  else if b = 0xED then some (2, 0x80, 0x9F)
  else if 0xE1 ≤ b ∧ b ≤ 0xEF then some (2, 0x80, 0xBF)
  else if b = 0xF0 then some (3, 0x90, 0xBF)
  else if b = 0xF4 then some (3, 0x80, 0x8F)
  else if 0xF1 ≤ b ∧ b ≤ 0xF3 then some (3, 0x80, 0xBF)
  else none

/-- Goes on with a character of which `need` bytes are missing. -/
def decodeFrom : (need low high acc : Nat) → List UInt8 → List Char
  | 0, _, _, _, [] => []
  | _ + 1, _, _, _, [] => [replacementChar]
  | 0, _, _, _, b :: rest =>
    let b := b.toNat
    if b < 0x80 then Char.ofNat b :: decodeFrom 0 0 0 0 rest
    else match continuation? b with
      | some (n, low, high) =>
        let lead := if n = 1 then b - 0xC0 else if n = 2 then b - 0xE0 else b - 0xF0
        decodeFrom n low high lead rest
      | none => replacementChar :: decodeFrom 0 0 0 0 rest
  | need + 1, low, high, acc, b :: rest =>
    let b := b.toNat
    if low ≤ b ∧ b ≤ high then
      let acc := acc * 64 + (b - 0x80)
      match need with
      | 0 => Char.ofNat acc :: decodeFrom 0 0 0 0 rest
      | need => decodeFrom need 0x80 0xBF acc rest
    else if b < 0x80 then replacementChar :: Char.ofNat b :: decodeFrom 0 0 0 0 rest
    else match continuation? b with
      | some (n, low, high) =>
        let lead := if n = 1 then b - 0xC0 else if n = 2 then b - 0xE0 else b - 0xF0
        replacementChar :: decodeFrom n low high lead rest
      | none => replacementChar :: replacementChar :: decodeFrom 0 0 0 0 rest

/-- The text of bytes. -/
def decode (bytes : List UInt8) : String := String.ofList (decodeFrom 0 0 0 0 bytes)

/-- The bytes of a text. -/
def encode (text : String) : List UInt8 := text.toUTF8.toList

end Runbook.Text
