import ForeignTable.Address
import ForeignTable.Floating.Shortest
import ForeignTable.Remote.Kind
import ForeignTable.Timestamp
import ForeignTable.Uuid

/-!
# Remote values

The values that cells and parameters of the remote store carry, and their text. A remote
null is `none` where a value may be missing, never a value of its own. Values without a
text of their own show a marker, so that one odd column does not fail a row.
-/

set_option autoImplicit false

namespace ForeignTable.Remote

inductive Value where
  | tinyint (value : Signed 8)
  | smallint (value : Signed 16)
  | int (value : Signed 32)
  | bigint (value : Signed 64)
  | counter (value : Signed 64)
  | boolean (value : Bool)
  | float (value : Floating .single)
  | double (value : Floating .double)
  | ascii (value : String)
  | text (value : String)
  | varchar (value : String)
  /-- Milliseconds since 1970-01-01 00:00:00 UTC. -/
  | timestamp (millis : Signed 64)
  | uuid (value : Uuid)
  | timeuuid (value : Uuid)
  | inet (value : Address)
  | blob (bytes : List UInt8)
  /-- A decimal number in its textual form. -/
  | decimal (value : String)
  /-- Days since 1970-01-01. -/
  | date (days : Signed 32)
  | list (elements : List Value)
  | set (elements : List Value)
  | map (entries : List (Value × Value))

/-- One remote row; `none` is a remote null. -/
abbrev Row := List (Option Value)

namespace Value

/-- The type of a value. Collections do not tell the type of their elements. -/
def kind : Value → Kind
  | tinyint _ => .tinyint
  | smallint _ => .smallint
  | int _ => .int
  | bigint _ => .bigint
  | counter _ => .counter
  | boolean _ => .boolean
  | float _ => .float
  | double _ => .double
  | ascii _ => .ascii
  | text _ => .text
  | varchar _ => .varchar
  | timestamp _ => .timestamp
  | uuid _ => .uuid
  | timeuuid _ => .timeuuid
  | inet _ => .inet
  | blob _ => .blob
  | decimal _ => .decimal
  | date _ => .date
  | list _ => .list .unnamed
  | set _ => .set .unnamed
  | map _ => .map .unnamed .unnamed

def unhandled : String := "<unhandled type>"

/-- Writes a text into a buffer once it is there. Without it the buffer is left alone. -/
def pushText (buffer : String) : Except Error (List Char) → Except Error Unit × String
  | .error failure => (.error failure, buffer)
  | .ok letters => (.ok (), buffer ++ String.ofList letters)

/-- Writes the text of a value into a buffer. The result stands beside what the buffer holds
afterwards, whether the value succeeded or not; only a timestamp can fail. -/
def transfer (buffer : String) : Value → Except Error Unit × String
  | tinyint value => (.ok (), buffer ++ String.ofList (Text.integerText value.toInt))
  | smallint value => (.ok (), buffer ++ String.ofList (Text.integerText value.toInt))
  | int value => (.ok (), buffer ++ String.ofList (Text.integerText value.toInt))
  | bigint value | counter value =>
      (.ok (), buffer ++ String.ofList (Text.integerText value.toInt))
  | boolean value => (.ok (), buffer ++ if value then "true" else "false")
  | float value => (.ok (), buffer ++ String.ofList value.text)
  | double value => (.ok (), buffer ++ String.ofList value.text)
  | ascii value | text value | varchar value => (.ok (), buffer ++ value)
  | timestamp millis => pushText buffer (Timestamp.remoteText millis)
  | uuid value => (.ok (), buffer ++ String.ofList value.text)
  | inet value => (.ok (), buffer ++ String.ofList value.text)
  | timeuuid _ | blob _ | decimal _ | date _ | list _ | set _ | map _ =>
      (.ok (), buffer ++ unhandled)

/-- What is written once the text of a value has been appended to it. -/
def appendText (written : String) (value : Value) : Except Error String :=
  match value.transfer written with
  | (.ok (), longer) => .ok longer
  | (.error failure, _) => .error failure

def render (value : Value) : Except Error String := appendText "" value

/-- Appends the texts of several values one after another and goes on after a failure:
what is written after each value, and the failure if there was one. -/
def appendTexts (written : String) : List Value → List (String × Option Error)
  | [] => []
  | value :: rest =>
      let (outcome, longer) := value.transfer written
      let failure? := match outcome with
        | .ok () => none
        | .error failure => some failure
      (longer, failure?) :: appendTexts longer rest

end Value

end ForeignTable.Remote
