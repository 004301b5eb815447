import ForeignTable.Consistency
import ForeignTable.Remote.Value

/-!
# Prepared statements

Statement text with its positional parameters. A statement is prepared once per operation
and bound anew for every execution.
-/

set_option autoImplicit false

namespace ForeignTable.Remote

/-- The number of placeholders outside quotes, read on from inside `mark` quotes or from
outside any. A quote ends at its own mark only. -/
def countPlaceholders : Option Char → List Char → Nat
  | _, [] => 0
  | some mark, c :: rest => countPlaceholders (if c = mark then none else some mark) rest
  | none, c :: rest =>
      if c = '"' ∨ c = '\'' then countPlaceholders (some c) rest
      else if c = '?' then countPlaceholders none rest + 1
      else countPlaceholders none rest

/-- A prepared statement. A parameter that is not bound is null. -/
structure Statement where
  sql : String
  parameters : List (Option Value)
  consistency : Consistency

namespace Statement

def prepare (sql : String) (consistency : Consistency) : Statement where
  sql := sql
  parameters := List.replicate (countPlaceholders none sql.toList) none
  consistency := consistency

/-- Binds the parameter at a position from zero. -/
def bind (statement : Statement) (index : Nat) (value : Option Value) :
    Except Error Statement :=
  if index < statement.parameters.length then
    .ok { statement with parameters := statement.parameters.set index value }
  else .error (.internal (.parameterIndex index statement.parameters.length))

def clear (statement : Statement) : Statement :=
  { statement with parameters := statement.parameters.map fun _ => none }

@[simp] theorem length_parameters_prepare (sql : String) (consistency : Consistency) :
    (prepare sql consistency).parameters.length = countPlaceholders none sql.toList := by
  simp [prepare]

@[simp] theorem length_parameters_clear (statement : Statement) :
    statement.clear.parameters.length = statement.parameters.length := by
  simp [clear]

theorem bind_eq_ok_iff {statement bound : Statement} {index : Nat} {value : Option Value} :
    statement.bind index value = .ok bound ↔
      index < statement.parameters.length ∧
        bound = { statement with parameters := statement.parameters.set index value } := by
  unfold bind
  split
  · rename_i inside
    simp [inside, eq_comm]
  · rename_i outside
    simp [outside]

/-- Binds converted values to consecutive parameters from `index` on and stops at the first
failure: the failure if there was one, and the statement as far as it was bound. -/
def bindFrom (statement : Statement) (index : Nat) :
    List (Except Error (Option Value)) → Option Error × Statement
  | [] => (none, statement)
  | .error failure :: _ => (some failure, statement)
  | .ok value :: rest =>
      match statement.bind index value with
      | .error failure => (some failure, statement)
      | .ok bound => bound.bindFrom (index + 1) rest

end Statement

end ForeignTable.Remote
