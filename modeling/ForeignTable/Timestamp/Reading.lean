import ForeignTable.Text.Blank
import ForeignTable.Text.Letters
import ForeignTable.Text.Split
import ForeignTable.Timestamp

/-!
# Reading timestamps

A timestamp text is a date, then optionally a time of day, then optionally a zone. The
date ends at the first blank or `T`, the time of day at the first character other than a
digit, a colon or a point. A text without a time of day means midnight.
-/

set_option autoImplicit false

namespace ForeignTable.Timestamp

/-- Civil date and time in microseconds since 1970-01-01 as if in UTC, and the offset that
the text carries. -/
structure Reading where
  micros : Int
  offset : Option Zone
deriving DecidableEq

/-- Year, month and day with hyphens between them, of any number of digits each. -/
def date? (text : List Char) : Option Date := do
  let (yearText, rest) ← Text.splitOnce '-' text
  let (monthText, dayText) ← Text.splitOnce '-' rest
  let year ← Text.integer? yearText
  let month ← Text.unsigned? 256 monthText
  let day ← Text.unsigned? 256 dayText
  Date.ofParts? year month day

def below? (bound : Nat) (text : List Char) : Option Nat :=
  (Text.natural? text).bind fun value => if value < bound then some value else none

/-- Seconds with an optional fraction, in microseconds. Digits past the sixth are cut. -/
def seconds? (text : List Char) : Option Nat :=
  match Text.splitOnce '.' text with
  | none => (below? 60 text).map (· * 1000000)
  | some (whole, fraction) => do
      let second ← below? 60 whole
      let _ ← Text.natural? fraction
      let micros ← Text.natural? ((fraction ++ List.replicate 6 '0').take 6)
      return second * 1000000 + micros

/-- Hours and minutes, optionally seconds, with colons between them: microseconds since
midnight. -/
def clock? (text : List Char) : Option Nat := do
  let (hourText, rest) ← Text.splitOnce ':' text
  let hour ← below? 24 hourText
  match Text.splitOnce ':' rest with
  | none => do
      let minute ← below? 60 rest
      return (hour * 60 + minute) * 60000000
  | some (minuteText, secondText) => do
      let minute ← below? 60 minuteText
      let micros ← seconds? secondText
      return (hour * 60 + minute) * 60000000 + micros

/-- Hours and minutes of an offset: joined by a colon, or exactly four digits, or hours
alone. -/
def offsetParts (text : List Char) : List Char × List Char :=
  match Text.splitOnce ':' text with
  | some parts => parts
  | none => if text.length == 4 then (text.take 2, text.drop 2) else (text, ['0'])

def offset? (negative : Bool) (text : List Char) : Option Zone := do
  let (hourText, minuteText) := offsetParts text
  let hours ← below? 128 hourText
  let minutes ← below? 128 minuteText
  let sign : Int := if negative then -1 else 1
  (Zone.ofHoursMinutes (sign * hours) (sign * minutes)).toOption

def utcNames : List (List Char) :=
  [['U', 'T', 'C'], ['G', 'M', 'T'], ['U', 'C', 'T'], ['Z']]

/-- A zone in full: nothing, a name of UTC, or a signed offset. The outer option is the
success of the reader. -/
def zone? (text : List Char) : Option (Option Zone) :=
  if text.isEmpty then some none
  else if utcNames.any (Text.sameLetters text) then some (some Zone.utc)
  else
    match text with
    | '+' :: rest => (offset? false rest).map some
    | '-' :: rest => (offset? true rest).map some
    | _ => none

def isClockCharacter (c : Char) : Bool := c.isDigit || c == ':' || c == '.'

def reading? (text : List Char) : Option Reading := do
  let trimmed := Text.trim text
  let dateText := trimmed.takeWhile fun c => c != ' ' && c != 'T'
  let rest := Text.trimStart (trimmed.drop (dateText.length + 1))
  let clockText := rest.takeWhile isClockCharacter
  let date ← date? dateText
  let clock ← if clockText.isEmpty then some 0 else clock? clockText
  let offset ← zone? (Text.trim (rest.drop clockText.length))
  return ⟨date.dayNumber * 86400000000 + (clock : Int), offset⟩

/-- The instant of a civil reading taken at an offset, in microseconds since 1970-01-01 UTC. None
when a step leaves 64 bits. -/
def Reading.instantAt? (reading : Reading) (offset : Zone) : Option (Signed 64) := do
  let civil ← Signed.ofInt? 64 reading.micros
  Signed.ofInt? 64 (civil.toInt - offset.micros)

/-- The wall clock of the session zone, in microseconds since 1970-01-01. An offset in the text is
honoured by moving the instant into the session zone. -/
def Reading.wallClock? (reading : Reading) (zone : Zone) : Option (Signed 64) :=
  match reading.offset with
  | some offset => do
      let instant ← reading.instantAt? offset
      Signed.ofInt? 64 (instant.toInt + zone.micros)
  | none => Signed.ofInt? 64 reading.micros

def ofUnixMicros (text : String) (precision : Option Nat) (unix : Int) :
    Except Error (Signed 64) :=
  match Signed.ofInt? 64 (unix - epochMicros) with
  | some micros => roundTo precision micros
  | none => .error (.invalidArgument (.timestampRange text))

def ofWallClockText (text : String) (zone : Zone) (precision : Option Nat) :
    Except Error (Signed 64) :=
  match reading? text.toList with
  | none => .error (.invalidArgument (.timestampSyntax text))
  | some reading =>
      match reading.wallClock? zone with
      | none => .error (.invalidArgument (.timestampRange text))
      | some wall => ofUnixMicros text precision wall.toInt

/-- Reads an instant. A text without an offset is a reading of the session zone. -/
def ofInstantText (text : String) (zone : Zone) (precision : Option Nat) :
    Except Error (Signed 64) :=
  match reading? text.toList with
  | none => .error (.invalidArgument (.timestampSyntax text))
  | some reading =>
      match reading.instantAt? (reading.offset.getD zone) with
      | none => .error (.invalidArgument (.timestampRange text))
      | some instant => ofUnixMicros text precision instant.toInt

end ForeignTable.Timestamp
