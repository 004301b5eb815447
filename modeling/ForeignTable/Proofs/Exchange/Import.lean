import ForeignTable.Proofs.Exchange.Scalar
import ForeignTable.Proofs.Exchange.Timestamp

/-! Imported columns. The column type that a remote column is declared with reads every value
of the remote type, and binds what was read back to that value, up to the few remote types that
share a column type and to the second of a timestamp. -/

set_option autoImplicit false

namespace ForeignTable.Remote.Value

def isFloating : Value → Bool
  | float _ | double _ => true
  | _ => false

/-- The value that is left of another one after it was read and bound again. -/
def LeftOf (again : Value) : Value → Prop
  | counter count => again = bigint count
  | ascii value | varchar value => again = text value
  | timestamp millis =>
      ∃ second, again = timestamp second ∧ second.toInt = 1000 * (millis.toInt / 1000)
  | value => again = value

/-- The value is read under the column type, and what is read binds to what is left of it. -/
def Exchanged (value : Value) (zone : Zone) (columnType : ColumnType) : Prop :=
  ∃ datum again, value.ReadsAs zone columnType datum ∧
    columnType.bind zone (some datum) = .ok (some again) ∧ again.LeftOf value

variable (zone : Zone)

private theorem exchanged_timestamp {millis : Signed 64}
    (written : FourDigitYear (millis.toInt / 1000)) :
    (timestamp millis).Exchanged zone (.timestamptz (some 0)) := by
  obtain ⟨whole, reads, second⟩ := readsAs_timestamptz written zone (some 0)
  have moved : whole.toInt + Timestamp.epochMicros =
      whole.toInt + Timestamp.epochMicros - Timestamp.ahead false zone :=
    (Int.sub_zero _).symm
  have same : (whole.toInt + Timestamp.epochMicros) / 1000000 = millis.toInt / 1000 := by omega
  obtain ⟨again, bound, counted, _⟩ :=
    Timestamp.toUnixMillis_of_fourDigitYear moved (same.symm ▸ written)
  exact ⟨.timestamptz whole, .timestamp again, reads, ColumnType.bind_timestamptz bound (some 0),
    again, rfl, by omega⟩

/-- Every declared column type reads the values it was declared for. -/
theorem exchanged_of_mapped {value : Value} {columnType : ColumnType}
    (mapped : value.kind.columnType = .ok columnType) (exact : value.isFloating = false)
    (written : ∀ millis, value = .timestamp millis → FourDigitYear (millis.toInt / 1000)) :
    value.Exchanged zone columnType := by
  cases value with
  | tinyint word => cases mapped
  | smallint word =>
      cases mapped
      exact ⟨_, _, readsAs_smallint zone word, rfl, rfl⟩
  | int word =>
      cases mapped
      exact ⟨_, _, readsAs_integer zone word, rfl, rfl⟩
  | bigint word =>
      cases mapped
      exact ⟨_, _, readsAs_bigint zone word, rfl, rfl⟩
  | counter count =>
      cases mapped
      exact ⟨_, _, readsAs_bigint zone count, rfl, rfl⟩
  | boolean truth =>
      cases mapped
      exact ⟨_, _, readsAs_boolean zone truth, rfl, rfl⟩
  | float _ => cases exact
  | double _ => cases exact
  | ascii content =>
      cases mapped
      exact ⟨_, _, readsAs_text zone content, rfl, rfl⟩
  | text content =>
      cases mapped
      exact ⟨_, _, readsAs_text zone content, rfl, rfl⟩
  | varchar content =>
      cases mapped
      exact ⟨_, _, readsAs_text zone content, rfl, rfl⟩
  | timestamp millis =>
      cases mapped
      exact exchanged_timestamp zone (written millis rfl)
  | uuid identifier =>
      cases mapped
      exact ⟨_, _, readsAs_uuid zone identifier, rfl, rfl⟩
  | timeuuid _ => cases mapped
  | inet address =>
      cases mapped
      exact ⟨_, _, readsAs_inet zone address, rfl, rfl⟩
  | blob _ => cases mapped
  | decimal _ => cases mapped
  | date _ => cases mapped
  | list _ => cases mapped
  | set _ => cases mapped
  | map _ => cases mapped

end ForeignTable.Remote.Value

namespace ForeignTable.Import

/-- A remote value whose type has a column type is read under it in every zone, and what was
read binds to the value again: a counter as an integer, each kind of text as the plain one, and
a timestamp as its second. -/
theorem imported_value_survives {value : Remote.Value} {columnType : ColumnType}
    (mapped : value.kind.columnType = .ok columnType) (exact : value.isFloating = false)
    (written : ∀ millis, value = .timestamp millis → FourDigitYear (millis.toInt / 1000))
    (zone : Zone) :
    columnType.hasRemoteForm = true ∧
      ∃ text datum again, value.render = .ok text ∧
        Datum.ofText zone columnType text = .ok datum ∧
        columnType.bind zone (some datum) = .ok (some again) ∧ again.LeftOf value := by
  obtain ⟨datum, again, ⟨text, rendered, read⟩, bound, left⟩ :=
    Remote.Value.exchanged_of_mapped zone mapped exact written
  refine ⟨?_, text, datum, again, rendered, read, bound, left⟩
  cases form : columnType.hasRemoteForm with
  | true => rfl
  | false =>
      simp only [ColumnType.bind, form] at bound
      cases bound

/-- A millisecond before 1970, whose second is the one before. -/
theorem imported_value_survives_before_1970 :
    (ColumnType.timestamptz (some 0)).hasRemoteForm = true ∧
      ∃ text datum again,
        (Remote.Value.timestamp ⟨-1, by decide, by decide⟩).render = .ok text ∧
        Datum.ofText eastern (.timestamptz (some 0)) text = .ok datum ∧
        (ColumnType.timestamptz (some 0)).bind eastern (some datum) = .ok (some again) ∧
        ∃ second, again = .timestamp second ∧ second.toInt = -1000 := by
  refine @imported_value_survives (.timestamp _) _ rfl rfl ?_ eastern
  intro millis same
  cases same
  decide

end ForeignTable.Import
