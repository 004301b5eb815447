import ForeignTable.Proofs.Sql.Reader
import ForeignTable.Proofs.WritePlanning

/-! Statements of relations, read back. Whatever the names of its table and columns are, the
text of a statement stands for that statement and for no other one. -/

set_option autoImplicit false

namespace ForeignTable.Sql

/-- The statements that a relation is read and written with. -/
inductive Built (relation : Relation) : Statement → Prop where
  | select (used : UsedColumns) : Built relation (relation.selectStatement used)
  | insert {targets : List Nat} {keepExisting : Bool} {statement : Statement} :
      relation.insertStatement targets keepExisting = .ok statement → Built relation statement
  | update {targets : List Nat} {key : Column} {statement : Statement} :
      relation.updateStatement targets key = .ok statement → Built relation statement
  | delete (key : Column) : Built relation (relation.deleteStatement key)

theorem Built.assigns {relation : Relation} {statement : Statement}
    (built : Built relation statement) (table : TableName) (key : String) :
    statement ≠ .update table [] key := by
  cases built with
  | select used => exact nofun
  | insert built =>
      obtain ⟨columns, _, rfl⟩ := Relation.insertStatement_eq_ok_iff.mp built
      exact nofun
  | update built =>
      obtain ⟨assigned, columns, live, rfl⟩ := Relation.updateStatement_eq_ok_iff.mp built
      intro empty
      injection empty with _ names _
      cases List.map_eq_nil_iff.mp names
      cases live
      exact assigned rfl
  | delete key => exact nofun

theorem Built.ofText?_text {relation : Relation} {statement : Statement}
    (built : Built relation statement) : Statement.ofText? statement.text = some statement :=
  statement.ofText?_text built.assigns

end ForeignTable.Sql
