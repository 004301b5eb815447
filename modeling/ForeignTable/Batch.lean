import ForeignTable.Datum

/-!
# Result batches

The tuples of one fetch and a cursor over them. A fetch replaces the whole batch.
-/

set_option autoImplicit false

namespace ForeignTable

/-- Tuples with the position of the next one to hand out. -/
structure Batch where
  tuples : List Tuple := []
  cursor : Nat := 0
  cursor_le : cursor ≤ tuples.length := by simp

namespace Batch

def ofTuples (tuples : List Tuple) : Batch := { tuples }

def size (batch : Batch) : Nat := batch.tuples.length

def hasRemaining (batch : Batch) : Bool := batch.cursor < batch.tuples.length

def next (batch : Batch) : Option Tuple × Batch :=
  if inside : batch.cursor < batch.tuples.length then
    (some batch.tuples[batch.cursor],
      { tuples := batch.tuples, cursor := batch.cursor + 1, cursor_le := inside })
  else (none, batch)

def rewind (batch : Batch) : Batch := { tuples := batch.tuples }

@[simp] theorem tuples_rewind (batch : Batch) : batch.rewind.tuples = batch.tuples := rfl

@[simp] theorem tuples_next (batch : Batch) : batch.next.2.tuples = batch.tuples := by
  unfold next
  split <;> rfl

end Batch

end ForeignTable
