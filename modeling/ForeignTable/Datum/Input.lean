import ForeignTable.Datum
import ForeignTable.Error
import ForeignTable.Floating.Reading
import ForeignTable.Text.Blank
import ForeignTable.Timestamp.Reading

/-!
# Input conversion

Reads the text of a value under a column type. The constraints of the type apply: length
limits of the character types and the precision of timestamps. Blank characters around a
value do not count, except in text, which is kept as it is.
-/

set_option autoImplicit false

namespace ForeignTable.Datum

/-!
## Literals
-/

def booleanWords : List (String × Bool) :=
  [("t", true), ("true", true), ("y", true), ("yes", true), ("on", true), ("1", true),
    ("f", false), ("false", false), ("n", false), ("no", false), ("off", false), ("0", false)]

def boolean? (text : List Char) : Option Bool :=
  booleanWords.lookup (String.ofList (Text.lower text))

/-- Drops one sign at the start. -/
def unsigned : List Char → List Char
  | '-' :: rest | '+' :: rest => rest
  | literal => literal

/-- True for the decimal literals: the word `nan` in any letter case, or an optional sign,
digits with at most one point and at least one digit, and an optional exponent. -/
def isNumericLiteral (text : List Char) : Bool :=
  if Text.sameLetters text ['n', 'a', 'n'] then true
  else
    let body := unsigned text
    let mantissa := body.takeWhile fun c => c != 'e' && c != 'E'
    let (whole, fraction) := (Text.splitOnce '.' mantissa).getD (mantissa, [])
    let exponentFits := match body.drop mantissa.length with
      | [] => true
      | _ :: exponent =>
          let digits := unsigned exponent
          !digits.isEmpty && Text.allDigits digits
    !(whole.isEmpty && fraction.isEmpty) && Text.allDigits whole && Text.allDigits fraction &&
      exponentFits

/-- The byte of a pair of characters in base sixteen: two digits, or a plus sign and a
digit. -/
def pairedByte? (high low : Char) : Option UInt8 :=
  if high = '+' then (Text.hexDigit? low).map UInt8.ofNat else Text.hexByte? high low

def pairedBytes? : List Char → Option (List UInt8)
  | [] => some []
  | high :: low :: rest => do
      let byte ← pairedByte? high low
      let others ← pairedBytes? rest
      return byte :: others
  | [_] => none

/-- A byte string: pairs after the mark `\x`, or else the bytes of the text itself. -/
def bytes? (text : String) : Option (List UInt8) :=
  match text.toList with
  | '\\' :: 'x' :: pairs => pairedBytes? pairs
  | _ => some text.toUTF8.toList

/-- A text within a length limit. A longer text is cut when only blanks are lost. -/
def limited? (limit : Option Nat) (text : List Char) : Option (List Char) :=
  match limit with
  | none => some text
  | some count =>
      if (text.drop count).all (· == ' ') then some (text.take count) else none

/-- Puts blanks behind a text up to the length that its type asks for. -/
def padded (limit : Option Nat) (text : List Char) : List Char :=
  text ++ List.replicate (limit.getD 0 - text.length) ' '

/-!
## Conversion
-/

def syntaxError (columnType : ColumnType) (text : String) : Error :=
  .invalidArgument (.inputSyntax columnType text)

def orSyntaxError (columnType : ColumnType) (text : String) :
    Option Datum → Except Error Datum
  | some datum => .ok datum
  | none => .error (syntaxError columnType text)

/-- An integer of the width of its type. A literal that does not fit is out of range. -/
def integerOfText (bits : Nat) (build : Signed bits → Datum) (columnType : ColumnType)
    (text : String) : Except Error Datum :=
  match Text.integer? (Text.trim text.toList) with
  | none => .error (syntaxError columnType text)
  | some value =>
      match Signed.ofInt? bits value with
      | some word => .ok (build word)
      | none => .error (.invalidArgument (.inputRange columnType text))

/-- The input conversion of a column type. The zone resolves timestamps without one. -/
def ofText (zone : Zone) (columnType : ColumnType) (text : String) : Except Error Datum :=
  let trimmed := Text.trim text.toList
  match columnType with
  | .smallint => integerOfText 16 .smallint columnType text
  | .integer => integerOfText 32 .integer columnType text
  | .bigint => integerOfText 64 .bigint columnType text
  | .real => orSyntaxError columnType text ((Floating.ofText? .single trimmed).map .real)
  | .doublePrecision =>
      orSyntaxError columnType text ((Floating.ofText? .double trimmed).map .double)
  | .boolean => orSyntaxError columnType text ((boolean? trimmed).map .boolean)
  | .text => .ok (.text text)
  | .varchar limit =>
      match limited? limit text.toList with
      | some kept => .ok (.text (String.ofList kept))
      | none => .error (.invalidArgument (.tooLong columnType))
  | .bpchar limit =>
      match limited? limit text.toList with
      | some kept => .ok (.text (String.ofList (padded limit kept)))
      | none => .error (.invalidArgument (.tooLong columnType))
  | .timestamp precision => (Timestamp.ofWallClockText text zone precision).map .timestamp
  | .timestamptz precision => (Timestamp.ofInstantText text zone precision).map .timestamptz
  | .uuid => orSyntaxError columnType text ((Uuid.ofText? trimmed).map .uuid)
  | .inet => orSyntaxError columnType text ((Address.hostOfText? trimmed).map .inet)
  | .numeric =>
      if isNumericLiteral trimmed then .ok (.numeric (String.ofList trimmed))
      else .error (syntaxError columnType text)
  | .date =>
      orSyntaxError columnType text <|
        ((Date.ofText? trimmed).bind fun date =>
          Signed.ofInt? 32 (date.dayNumber - Timestamp.epochDays)).map .date
  | .bytea => orSyntaxError columnType text ((bytes? text).map .bytea)
  | .json =>
      if trimmed.isEmpty then .error (syntaxError columnType text) else .ok (.json text)

end ForeignTable.Datum
