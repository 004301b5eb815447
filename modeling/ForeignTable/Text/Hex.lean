/-!
# Hexadecimal digits

Bytes are written as two lower-case hexadecimal digits each. Readers take both cases.
-/

set_option autoImplicit false

namespace ForeignTable.Text

def hexDigit? (c : Char) : Option Nat :=
  let code := c.toNat
  if 48 ≤ code && code ≤ 57 then some (code - 48)
  else if 97 ≤ code && code ≤ 102 then some (code - 87)
  else if 65 ≤ code && code ≤ 70 then some (code - 55)
  else none

/-- The two lower-case digits of a byte, the high one first. -/
def hexPair (byte : UInt8) : List Char :=
  [Nat.digitChar (byte.toNat / 16), Nat.digitChar (byte.toNat % 16)]

def hexText (bytes : List UInt8) : List Char := bytes.flatMap hexPair

def hexByte? (high low : Char) : Option UInt8 := do
  let h ← hexDigit? high
  let l ← hexDigit? low
  return UInt8.ofNat (16 * h + l)

def hexBytes? : List Char → Option (List UInt8)
  | [] => some []
  | high :: low :: rest => do
      let byte ← hexByte? high low
      let others ← hexBytes? rest
      return byte :: others
  | [_] => none

/-- The number that hexadecimal digits denote, the most significant first. -/
def hexNumber? (text : List Char) : Option Nat :=
  text.foldlM (fun value c => (hexDigit? c).map fun digit => 16 * value + digit) 0

end ForeignTable.Text
