import ForeignTable.Signed
import ForeignTable.Text.Digits

/-!
# Integer literals

An integer literal is an optional sign and at least one ASCII digit. An unsigned one
takes a plus sign but no minus sign, not even in front of zero.
-/

set_option autoImplicit false

namespace ForeignTable.Text

def integer? : List Char → Option Int
  | '-' :: rest => (natural? rest).map fun magnitude => -(magnitude : Int)
  | '+' :: rest => (natural? rest).map Int.ofNat
  | text => (natural? text).map Int.ofNat

def signed? (bits : Nat) (text : List Char) : Option (Signed bits) :=
  (integer? text).bind (Signed.ofInt? bits)

def unsigned? (bound : Nat) (text : List Char) : Option Nat :=
  let body := match text with
    | '+' :: rest => rest
    | _ => text
  (natural? body).bind fun value => if value < bound then some value else none

def integerText : Int → List Char
  | .ofNat value => digits value
  | .negSucc predecessor => '-' :: digits (predecessor + 1)

/-- The text of an integer with zeros between sign and digits up to `width`, where the
minus sign counts as one character of the width. -/
def paddedInteger (width : Nat) : Int → List Char
  | .ofNat value => paddedDigits width value
  | .negSucc predecessor => '-' :: paddedDigits (width - 1) (predecessor + 1)

example : String.ofList (paddedInteger 4 (-1)) = "-001" := by decide
example : String.ofList (paddedInteger 4 2024) = "2024" := by decide

end ForeignTable.Text
