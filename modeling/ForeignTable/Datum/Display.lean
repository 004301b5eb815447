import ForeignTable.Datum
import ForeignTable.Floating.Shortest
import ForeignTable.Timestamp

/-!
# The text of a datum

Every datum has one text, except for timestamps and dates outside the calendar. Reading
the text under the type of the datum gives the datum back.
-/

set_option autoImplicit false

namespace ForeignTable.Datum

/-- The text of a datum; none for a timestamp or a date outside the calendar. -/
def display? : Datum → Option String
  | smallint value => some (String.ofList (Text.integerText value.toInt))
  | integer value => some (String.ofList (Text.integerText value.toInt))
  | bigint value => some (String.ofList (Text.integerText value.toInt))
  | real value => some (String.ofList value.text)
  | double value => some (String.ofList value.text)
  | boolean true => some "t"
  | boolean false => some "f"
  | text value | numeric value | json value => some value
  | timestamp micros => (Timestamp.text? micros).map String.ofList
  | timestamptz micros =>
      (Timestamp.text? micros).map fun civil => String.ofList (civil ++ ['+', '0', '0'])
  | uuid value => some (String.ofList value.text)
  | inet value => some (String.ofList value.text)
  | date days =>
      (Date.ofDayNumber? (days.toInt + Timestamp.epochDays)).map fun date =>
        String.ofList date.text
  | bytea bytes => some (String.ofList ('\\' :: 'x' :: Text.hexText bytes))

end ForeignTable.Datum
