import ForeignTable.Floating.Rounding
import ForeignTable.Text.Digits
import ForeignTable.Text.Integer
import ForeignTable.Text.Letters
import ForeignTable.Text.Split

/-!
# Reading floating-point numbers

A floating literal is an optional sign in front of `inf`, `infinity`, `nan` in any letter
case, or of decimal digits with at most one point, at least one digit and an optional
exponent. Its value is the number of the format nearest to the decimal that it denotes.
-/

set_option autoImplicit false

namespace ForeignTable.Floating

/-- The decimal `coefficient * 10 ^ power` in a format. Both formats lie between the
four hundredth powers of ten, so a decimal beyond them needs no exact arithmetic. -/
def ofDecimal (format : FloatFormat) (negative : Bool) (coefficient : Nat) (power : Int) :
    Floating format :=
  let order := power + (Text.digits coefficient).length
  if coefficient == 0 || order < -400 then signedZero negative
  else if 400 < order then infinity negative
  else
    ofRatio format negative (coefficient * Nat.pow 10 power.toNat) (Nat.pow 10 (-power).toNat)

/-- The decimal that an unsigned literal denotes: coefficient and power of ten. -/
def decimal? (text : List Char) : Option (Nat × Int) := do
  let mantissa := text.takeWhile fun c => c != 'e' && c != 'E'
  let power ← match text.drop mantissa.length with
    | [] => some 0
    | _ :: exponent => Text.integer? exponent
  let (whole, fraction) := (Text.splitOnce '.' mantissa).getD (mantissa, [])
  let coefficient ← Text.natural? (whole ++ fraction)
  return (coefficient, power - fraction.length)

def ofUnsignedText? (format : FloatFormat) (negative : Bool) (text : List Char) :
    Option (Floating format) :=
  match String.ofList (Text.lower text) with
  | "inf" | "infinity" => some (infinity negative)
  | "nan" => some (nan negative)
  | _ => (decimal? text).map fun (coefficient, power) =>
      ofDecimal format negative coefficient power

def ofText? (format : FloatFormat) : List Char → Option (Floating format)
  | '-' :: rest => ofUnsignedText? format true rest
  | '+' :: rest => ofUnsignedText? format false rest
  | text => ofUnsignedText? format false text

end ForeignTable.Floating
