import ForeignTable.Proofs.Attempt
import ForeignTable.Proofs.Materializer
import ForeignTable.Proofs.Transfer
import ForeignTable.Write

/-! Local failures. Everything that happens without the store, from the conversion of a
value to the reading of a row, fails for reasons of its own: a failure in the words of the
store has been reported by the store. -/

set_option autoImplicit false

namespace ForeignTable

/-- The attempt does not fail in the words of the store. -/
def Local {Output : Type} (attempt : Except Error Output) : Prop :=
  ∀ failure, attempt = .error failure → failure.kind ≠ .remoteExecution

variable {Source State Output Result : Type}

private theorem local_ok (value : Output) : Local (.ok value) := by
  intro failure impossible
  cases impossible

private theorem local_error {failure : Error} (own : failure.kind ≠ .remoteExecution) :
    Local (.error failure : Except Error Output) := by
  intro other same
  cases same
  exact own

theorem Local.bind {attempt : Except Error Output} {next : Output → Except Error Result}
    (first : Local attempt) (rest : ∀ value, Local (next value)) : Local (attempt >>= next) := by
  cases attempt with
  | error failure => exact local_error (first failure rfl)
  | ok value => exact rest value

theorem Local.map {attempt : Except Error Output} (first : Local attempt)
    (change : Output → Result) : Local (attempt.map change) := by
  cases attempt with
  | error failure => exact local_error (first failure rfl)
  | ok value => exact local_ok (change value)

theorem local_mapM {attempt : Source → Except Error Output} {items : List Source}
    (each : ∀ item ∈ items, Local (attempt item)) : Local (items.mapM attempt) := by
  induction items with
  | nil => exact local_ok []
  | cons item rest ih =>
      rw [List.mapM_cons]
      refine (each item List.mem_cons_self).bind fun value => ?_
      have others := ih fun other member => each other (List.mem_cons_of_mem item member)
      exact others.bind fun values => local_ok (value :: values)

private theorem local_foldlM {step : State → Source → Except Error State}
    (each : ∀ state item, Local (step state item)) (items : List Source) (state : State) :
    Local (items.foldlM step state) := by
  induction items generalizing state with
  | nil => exact local_ok state
  | cons item rest ih =>
      rw [List.foldlM_cons]
      exact (each state item).bind ih

/-!
## Conversions
-/

private theorem Timestamp.toUnixMillis_kind {micros : Signed 64} {wallClock : Bool} {zone : Zone}
    {failure : Error} (failed : toUnixMillis micros wallClock zone = .error failure) :
    failure.kind = .conversion := by
  unfold toUnixMillis at failed
  dsimp only at failed
  split at failed
  · cases failed
  · cases failed
    rfl

private theorem ColumnType.remoteValue_kind {columnType : ColumnType} {zone : Zone} {datum : Datum}
    {failure : Error} (failed : columnType.remoteValue zone datum = .error failure) :
    failure.kind = .conversion := by
  unfold remoteValue at failed
  split at failed
  -- a datum goes over as it is, or as an instant, or belongs to another type
  all_goals
    first
    | exact Timestamp.toUnixMillis_kind (Attempt.map_eq_error_iff.mp failed)
    | cases failed
  rfl

theorem ColumnType.bind_kind {columnType : ColumnType} {zone : Zone} {value : Option Datum}
    {failure : Error} (failed : columnType.bind zone value = .error failure) :
    failure.kind = .conversion ∨ failure.kind = .dataIntegrity := by
  unfold ColumnType.bind at failed
  split at failed
  · cases failed
    exact .inl rfl
  · cases value with
    | none =>
        dsimp only at failed
        split at failed
        · cases failed
          exact .inr rfl
        · cases failed
    | some datum =>
        exact .inl (remoteValue_kind (Attempt.map_eq_error_iff.mp failed))

theorem Relation.liveColumn_kind {relation : Relation} {ordinal : Nat} {failure : Error}
    (failed : relation.liveColumn ordinal = .error failure) : failure.kind = .conversion := by
  unfold liveColumn at failed
  split at failed
  · cases failed
    rfl
  · split at failed
    · cases failed
      rfl
    · cases failed

theorem ColumnType.local_bind (columnType : ColumnType) (zone : Zone) (value : Option Datum) :
    Local (columnType.bind zone value) := by
  intro failure failed
  rcases columnType.bind_kind failed with conversion | integrity
  · rw [conversion]
    exact nofun
  · rw [integrity]
    exact nofun

private theorem Relation.local_liveColumn (relation : Relation) (ordinal : Nat) :
    Local (relation.liveColumn ordinal) := by
  intro failure failed
  rw [relation.liveColumn_kind failed]
  exact nofun

theorem Write.local_targetParameter (write : Write) (tuple : Tuple) (ordinal : Nat) :
    Local (write.targetParameter tuple ordinal) :=
  (write.relation.local_liveColumn ordinal).bind fun column =>
    column.columnType.local_bind write.zone (tuple.value? ordinal)

theorem Remote.Statement.local_bind (statement : Statement) (index : Nat)
    (value : Option Value) : Local (statement.bind index value) := by
  unfold Statement.bind
  split
  · exact local_ok _
  · exact local_error nofun

/-- Binding converted values fails locally when every conversion does. -/
theorem Remote.Statement.bindFrom_local {statement : Statement} {index : Nat}
    {attempts : List (Except Error (Option Value))} {failure : Error}
    (each : ∀ attempt ∈ attempts, Local attempt)
    (failed : (statement.bindFrom index attempts).1 = some failure) :
    failure.kind ≠ .remoteExecution := by
  induction attempts generalizing statement index with
  | nil => cases failed
  | cons attempt rest ih =>
      cases attempt with
      | error first =>
          cases failed
          exact each _ List.mem_cons_self _ rfl
      | ok value =>
          simp only [bindFrom] at failed
          cases bound : statement.bind index value with
          | error refused =>
              rw [bound] at failed
              cases failed
              exact statement.local_bind index value _ bound
          | ok bound' =>
              rw [bound] at failed
              exact ih (fun other member => each other (List.mem_cons_of_mem _ member)) failed

/-!
## Rows
-/

private theorem Timestamp.local_remoteText (millis : Signed 64) : Local (remoteText millis) := by
  unfold remoteText
  split
  · exact local_ok _
  · exact local_error nofun

private theorem Remote.Value.local_render (value : Value) : Local value.render := by
  intro failure failed
  obtain ⟨millis, rfl, refused⟩ := render_eq_error_iff.mp failed
  exact Timestamp.local_remoteText millis failure refused

private theorem Timestamp.local_roundTo (precision : Option Nat) (micros : Signed 64) :
    Local (roundTo precision micros) := by
  intro failure failed
  cases precision with
  | none => cases failed
  | some places =>
      rw [roundTo] at failed
      split at failed
      · cases failed
      · split at failed
        · cases failed
        · cases failed
          exact nofun

private theorem Timestamp.local_ofUnixMicros (text : String) (precision : Option Nat) (unix : Int) :
    Local (ofUnixMicros text precision unix) := by
  unfold ofUnixMicros
  split
  · exact local_roundTo _ _
  · exact local_error nofun

private theorem Timestamp.local_ofWallClockText (text : String) (zone : Zone)
    (precision : Option Nat) : Local (ofWallClockText text zone precision) := by
  unfold ofWallClockText
  split
  · exact local_error nofun
  · split
    · exact local_error nofun
    · exact local_ofUnixMicros _ _ _

private theorem Timestamp.local_ofInstantText (text : String) (zone : Zone)
    (precision : Option Nat) :
    Local (ofInstantText text zone precision) := by
  unfold ofInstantText
  split
  · exact local_error nofun
  · split
    · exact local_error nofun
    · exact local_ofUnixMicros _ _ _

private theorem Datum.local_orSyntaxError (columnType : ColumnType) (text : String)
    (datum : Option Datum) : Local (orSyntaxError columnType text datum) := by
  cases datum with
  | none => exact local_error nofun
  | some datum => exact local_ok datum

private theorem Datum.local_integerOfText {bits : Nat} (build : Signed bits → Datum)
    (columnType : ColumnType) (text : String) :
    Local (integerOfText bits build columnType text) := by
  unfold integerOfText
  split
  · exact local_error nofun
  · split
    · exact local_ok _
    · exact local_error nofun

private theorem Datum.local_ofText (zone : Zone) (columnType : ColumnType) (text : String) :
    Local (ofText zone columnType text) := by
  unfold ofText
  cases columnType with
  | smallint => exact local_integerOfText _ _ _
  | integer => exact local_integerOfText _ _ _
  | bigint => exact local_integerOfText _ _ _
  | text => exact local_ok _
  | varchar limit =>
      dsimp only
      split
      · exact local_ok _
      · exact local_error nofun
  | bpchar limit =>
      dsimp only
      split
      · exact local_ok _
      · exact local_error nofun
  | timestamp precision => exact (Timestamp.local_ofWallClockText text zone precision).map _
  | timestamptz precision => exact (Timestamp.local_ofInstantText text zone precision).map _
  | numeric =>
      dsimp only
      split
      · exact local_ok _
      · exact local_error nofun
  | json =>
      dsimp only
      split
      · exact local_error nofun
      · exact local_ok _
  | real | doublePrecision | boolean | uuid | inet | date | bytea =>
      exact local_orSyntaxError _ _ _

theorem Relation.local_materialize (relation : Relation) (zone : Zone) (retrieved : List Nat)
    (row : Remote.Row) : Local (relation.materialize zone retrieved row) := by
  rw [materialize_eq]
  split
  · exact local_error nofun
  · refine local_foldlM (fun tuple (ordinal, cell) => ?_) _ _
    refine (relation.local_liveColumn ordinal).bind fun column => ?_
    cases cell with
    | none => exact local_ok tuple
    | some value =>
        have converted : Local (datumOfCell zone column value) :=
          value.local_render.bind fun text => Datum.local_ofText zone column.columnType text
        exact converted.bind fun datum => local_ok _

end ForeignTable
