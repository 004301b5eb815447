import ForeignTable.Binding
import ForeignTable.Proofs.Attempt
import ForeignTable.Remote.Statement

/-! Binding of a whole row. A statement with room for the row is bound from the left, so
the outcome is that of converting the values one after another; what was bound before
does not show. -/

set_option autoImplicit false

namespace ForeignTable

/-- Only a missing value becomes a null, and never in a smallint column. -/
theorem ColumnType.bind_eq_ok_none {columnType : ColumnType} {zone : Zone}
    {value : Option Datum} (bound : columnType.bind zone value = .ok none) :
    value = none ∧ columnType ≠ .smallint := by
  unfold bind at bound
  split at bound
  · cases bound
  · cases value with
    | none =>
        refine ⟨rfl, ?_⟩
        rintro rfl
        simp at bound
    | some datum =>
        obtain ⟨_, _, impossible⟩ := Attempt.map_eq_ok_iff.mp bound
        cases impossible

namespace Remote.Statement

variable {statement bound : Statement}

@[simp] theorem clear_prepare (sql : String) (consistency : Consistency) :
    (prepare sql consistency).clear = prepare sql consistency := by
  simp [prepare, clear]

private theorem clear_bind {index : Nat} {value : Option Value}
    (success : statement.bind index value = .ok bound) : bound.clear = statement.clear := by
  obtain ⟨_, rfl⟩ := bind_eq_ok_iff.mp success
  simp [clear, List.map_const']

/-- Binding changes nothing that clearing does not change back, after a failure too. -/
theorem clear_bindFrom (statement : Statement) (index : Nat)
    (attempts : List (Except Error (Option Value))) :
    (statement.bindFrom index attempts).2.clear = statement.clear := by
  induction attempts generalizing statement index with
  | nil => rfl
  | cons attempt rest ih =>
      cases attempt with
      | error failure => rfl
      | ok value =>
          simp only [bindFrom]
          cases success : statement.bind index value with
          | error failure => rfl
          | ok bound => exact (ih bound (index + 1)).trans (clear_bind success)

/-- With room for all of them, binding stops at the first conversion that fails. -/
theorem bindFrom_of_error {index : Nat} {attempts : List (Except Error (Option Value))}
    {failure : Error} (room : index + attempts.length ≤ statement.parameters.length)
    (failed : attempts.mapM id = .error failure) :
    (statement.bindFrom index attempts).1 = some failure := by
  induction attempts generalizing statement index with
  | nil => cases failed
  | cons attempt rest ih =>
      cases attempt with
      | error first =>
          cases failed
          rfl
      | ok value =>
          rw [List.length_cons] at room
          have success : statement.bind index value =
              .ok { statement with parameters := statement.parameters.set index value } :=
            bind_eq_ok_iff.mpr ⟨by omega, rfl⟩
          have remaining : rest.mapM id = .error failure := by
            rw [List.mapM_cons] at failed
            obtain impossible | ⟨_, _, continuation⟩ := Attempt.bind_eq_error_iff.mp failed
            · cases impossible
            · obtain remaining | ⟨_, _, impossible⟩ := Attempt.bind_eq_error_iff.mp continuation
              · exact remaining
              · cases impossible
          simp only [bindFrom, success]
          exact ih (by rw [List.length_set]; omega) remaining

/-- With room for all of them, converted values replace the parameters from `index` on. -/
theorem bindFrom_of_ok (front back : List (Option Value)) (sql : String)
    (consistency : Consistency) {attempts : List (Except Error (Option Value))}
    {values : List (Option Value)} (room : attempts.length ≤ back.length)
    (converted : attempts.mapM id = .ok values) :
    bindFrom ⟨sql, front ++ back, consistency⟩ front.length attempts =
      (none, ⟨sql, front ++ values ++ back.drop values.length, consistency⟩) := by
  induction attempts generalizing front back values with
  | nil =>
      cases converted
      simp [bindFrom]
  | cons attempt rest ih =>
      rw [List.mapM_cons] at converted
      obtain ⟨value, first, continuation⟩ := Attempt.bind_eq_ok_iff.mp converted
      change attempt = .ok value at first
      subst first
      obtain ⟨others, remaining, shape⟩ := Attempt.bind_eq_ok_iff.mp continuation
      cases shape
      cases back with
      | nil => simp at room
      | cons old back =>
          have success : bind ⟨sql, front ++ old :: back, consistency⟩ front.length value =
              .ok ⟨sql, (front ++ [value]) ++ back, consistency⟩ :=
            bind_eq_ok_iff.mpr ⟨by simp, by simp⟩
          have size : (front ++ [value]).length = front.length + 1 := by simp
          have recursive := ih (front ++ [value]) back (by simpa using room) remaining
          rw [size] at recursive
          simp only [bindFrom, success, recursive]
          simp

end Remote.Statement

end ForeignTable
