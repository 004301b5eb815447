import ForeignTable.Materialize

/-! The buffer of a materializer. It is cleared before every cell, so neither a row nor the zone
behind it sees what the cells before have left there, not even after a failure. -/

set_option autoImplicit false

namespace ForeignTable

/-!
## Without a buffer
-/

namespace Relation

def datumOfCell (zone : Zone) (column : Column) (cell : Remote.Value) : Except Error Datum := do
  let text ← cell.render
  Datum.ofText zone column.columnType text

def placeCell (relation : Relation) (zone : Zone) (tuple : Tuple) (ordinal : Nat)
    (cell : Option Remote.Value) : Except Error Tuple := do
  let column ← relation.liveColumn ordinal
  match cell with
  | none => return tuple
  | some value => do
      let datum ← datumOfCell zone column value
      return tuple.set (ordinal - 1) (some datum)

end Relation

/-!
## Cells and rows
-/

namespace Materializer

variable (materializer : Materializer)

private theorem datumOfCell_fst (column : Column) (cell : Remote.Value) :
    (materializer.datumOfCell column cell).1 =
      Relation.datumOfCell materializer.zone column cell := by
  unfold datumOfCell Relation.datumOfCell Remote.Value.render Remote.Value.appendText
  obtain ⟨written, buffer⟩ := cell.transfer ""
  cases written <;> rfl

private theorem zone_datumOfCell (column : Column) (cell : Remote.Value) :
    (materializer.datumOfCell column cell).2.zone = materializer.zone := by
  unfold datumOfCell
  obtain ⟨written, buffer⟩ := cell.transfer ""
  cases written <;> rfl

variable (relation : Relation)

private theorem placeCells_spec (tuple : Tuple) (cells : List (Nat × Option Remote.Value)) :
    (placeCells relation materializer tuple cells).1 =
        cells.foldlM (fun tuple (ordinal, cell) =>
          relation.placeCell materializer.zone tuple ordinal cell) tuple ∧
      (placeCells relation materializer tuple cells).2.zone = materializer.zone := by
  induction cells generalizing materializer tuple with
  | nil => exact ⟨rfl, rfl⟩
  | cons head rest ih =>
      obtain ⟨ordinal, cell⟩ := head
      rw [List.foldlM_cons, placeCells]
      simp only [Relation.placeCell]
      cases relation.liveColumn ordinal with
      | error failure => exact ⟨rfl, rfl⟩
      | ok column =>
          cases cell with
          | none => exact ih materializer tuple
          | some value =>
              have read := materializer.datumOfCell_fst column value
              have kept := materializer.zone_datumOfCell column value
              cases outcome : materializer.datumOfCell column value with
              | mk attempt later =>
                  -- what the cell leaves in the buffer is in the later materializer only
                  rw [outcome] at read kept
                  simp only at read kept
                  simp only [outcome, bind, Except.bind, ← read]
                  rw [← kept]
                  cases attempt with
                  | error failure => exact ⟨rfl, rfl⟩
                  | ok datum => exact ih later _

private theorem materialize_spec (retrieved : List Nat) (row : Remote.Row) :
    (materializer.materialize relation retrieved row).1 =
        relation.materialize materializer.zone retrieved row ∧
      (materializer.materialize relation retrieved row).2.zone = materializer.zone := by
  unfold Relation.materialize materialize
  split
  · exact ⟨rfl, rfl⟩
  · obtain ⟨placed, kept⟩ :=
      materializer.placeCells_spec relation relation.emptyTuple (retrieved.zip row)
    exact ⟨placed.trans (placeCells_spec ⟨materializer.zone, ""⟩ _ _ _).1.symm, kept⟩

/-- A run over rows gives each row the result that it has on its own. -/
theorem materializeRows_fst (retrieved : List Nat) (rows : List Remote.Row) :
    (materializer.materializeRows relation retrieved rows).1 =
      rows.map (relation.materialize materializer.zone retrieved) := by
  induction rows generalizing materializer with
  | nil => rfl
  | cons row rest ih =>
      obtain ⟨result, kept⟩ := materializer.materialize_spec relation retrieved row
      rw [List.map_cons, ← result, ← kept, ← ih]
      rfl

end Materializer

namespace Relation

theorem materialize_eq (relation : Relation) (zone : Zone) (retrieved : List Nat)
    (row : Remote.Row) :
    relation.materialize zone retrieved row =
      if !retrieved.isEmpty && retrieved.length ≠ row.length then
        .error (.resultShape retrieved.length row.length)
      else
        (retrieved.zip row).foldlM
          (fun tuple (ordinal, cell) => relation.placeCell zone tuple ordinal cell)
          relation.emptyTuple := by
  unfold materialize Materializer.materialize
  split
  · rfl
  · exact (Materializer.placeCells_spec _ _ _ _).1

variable {relation : Relation} {zone : Zone} {retrieved : List Nat} {row : Remote.Row}

theorem materialize_of_other_shape (filled : retrieved ≠ [])
    (other : retrieved.length ≠ row.length) :
    relation.materialize zone retrieved row =
      .error (.resultShape retrieved.length row.length) := by
  rw [materialize_eq, if_pos]
  simp [filled, other]

theorem materialize_of_sized (sized : retrieved = [] ∨ retrieved.length = row.length) :
    relation.materialize zone retrieved row =
      (retrieved.zip row).foldlM
        (fun tuple (ordinal, cell) => relation.placeCell zone tuple ordinal cell)
        relation.emptyTuple := by
  rw [materialize_eq, if_neg]
  cases sized with
  | inl nothing => simp [nothing]
  | inr same => simp [same]

/-- Each ordinal has a cell, and each cell an ordinal unless none were retrieved. -/
theorem map_fst_zip_of_sized (sized : retrieved = [] ∨ retrieved.length = row.length) :
    (retrieved.zip row).map Prod.fst = retrieved := by
  cases sized with
  | inl nothing =>
      subst nothing
      rfl
  | inr same => exact List.map_fst_zip (Nat.le_of_eq same)

end Relation

end ForeignTable
