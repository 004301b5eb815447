/-!
# Blank characters and trimming

A character is blank when it has the Unicode property White_Space. Input conversions
ignore blank characters at both ends of a text, and only there.
-/

set_option autoImplicit false

namespace ForeignTable.Text

/-- The characters with the Unicode property White_Space. -/
def isBlank (c : Char) : Bool :=
  let code := c.toNat
  (9 ≤ code && code ≤ 13) || code == 0x20 || code == 0x85 || code == 0xA0 ||
    code == 0x1680 || (0x2000 ≤ code && code ≤ 0x200A) || code == 0x2028 ||
    code == 0x2029 || code == 0x202F || code == 0x205F || code == 0x3000

def trimStart (text : List Char) : List Char := text.dropWhile isBlank

def trimEnd (text : List Char) : List Char := (text.reverse.dropWhile isBlank).reverse

def trim (text : List Char) : List Char := trimEnd (trimStart text)

example : trim " \t42\u00a0".toList = ['4', '2'] := by decide

end ForeignTable.Text
