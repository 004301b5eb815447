import ForeignTable.Datum.Input
import ForeignTable.Relation
import ForeignTable.Remote.Value

/-!
# Materializing remote rows

A remote row becomes a tuple of its relation. Each cell goes through its text and the input
conversion of its column, so that remote data obeys the constraints of the column type. The
texts of all cells of all rows are written into one buffer.
-/

set_option autoImplicit false

namespace ForeignTable

def Relation.emptyTuple (relation : Relation) : Tuple := relation.columns.map fun _ => none

/-- Materializes row after row. The buffer keeps what was last written into it. -/
structure Materializer where
  zone : Zone
  buffer : String := ""

namespace Materializer

/-- The datum of a cell that is not null, read from the buffer. The buffer is cleared before the
text of the cell goes into it, never afterwards. -/
def datumOfCell (materializer : Materializer) (column : Column) (cell : Remote.Value) :
    Except Error Datum × Materializer :=
  let (written, buffer) := cell.transfer ""
  let later := { materializer with buffer }
  match written with
  | .error failure => (.error failure, later)
  | .ok () => (Datum.ofText materializer.zone column.columnType buffer, later)

/-- Puts cells into the slots of their columns one after another, up to the first failure. A null
leaves its slot as it is. -/
def placeCells (relation : Relation) (materializer : Materializer) (tuple : Tuple) :
    List (Nat × Option Remote.Value) → Except Error Tuple × Materializer
  | [] => (.ok tuple, materializer)
  | (ordinal, cell) :: rest =>
      match relation.liveColumn ordinal with
      | .error failure => (.error failure, materializer)
      | .ok column =>
          match cell with
          | none => placeCells relation materializer tuple rest
          | some value =>
              match materializer.datumOfCell column value with
              | (.error failure, later) => (.error failure, later)
              | (.ok datum, later) =>
                  placeCells relation later (tuple.set (ordinal - 1) (some datum)) rest

/-- The tuple of a row whose cells belong to the retrieved ordinals. A row of another shape
is refused, unless nothing was retrieved and its cells do not matter. -/
def materialize (materializer : Materializer) (relation : Relation) (retrieved : List Nat)
    (row : Remote.Row) : Except Error Tuple × Materializer :=
  if !retrieved.isEmpty && retrieved.length ≠ row.length then
    (.error (.resultShape retrieved.length row.length), materializer)
  else materializer.placeCells relation relation.emptyTuple (retrieved.zip row)

/-- The results of several rows, whatever became of the rows before them. -/
def materializeRows (materializer : Materializer) (relation : Relation) (retrieved : List Nat) :
    List Remote.Row → List (Except Error Tuple) × Materializer
  | [] => ([], materializer)
  | row :: rest =>
      let (result, later) := materializer.materialize relation retrieved row
      let (results, last) := later.materializeRows relation retrieved rest
      (result :: results, last)

end Materializer

def Relation.materialize (relation : Relation) (zone : Zone) (retrieved : List Nat)
    (row : Remote.Row) : Except Error Tuple :=
  (({ zone } : Materializer).materialize relation retrieved row).1

end ForeignTable
