import ForeignTable.Plan.Scan
import ForeignTable.Proofs.Write.Calls

/-! Layout of statements and parameters. The text of a statement has one placeholder for each
value that is bound, under all names, so a prepared statement has room for its row and no
binding ever misses a parameter. What refuses a row is a conversion or its protection. -/

set_option autoImplicit false

namespace ForeignTable

open Remote (Store countPlaceholders)

/-!
## Why a value is refused
-/

namespace Write

private theorem targetParameter_kind {write : Write} {tuple : Tuple} {ordinal : Nat}
    {failure : Error} (failed : write.targetParameter tuple ordinal = .error failure) :
    failure.kind = .conversion ∨ failure.kind = .dataIntegrity := by
  obtain lost | ⟨column, _, unbound⟩ := Attempt.bind_eq_error_iff.mp failed
  · exact .inl (Relation.liveColumn_kind lost)
  · exact ColumnType.bind_kind unbound

theorem FirstFailure.kind {write : Write} {request : Request} {failure : Error}
    (first : FirstFailure write request failure) :
    failure.kind = .conversion ∨ failure.kind = .dataIntegrity := by
  cases first with
  | target _ _ failed => exact targetParameter_kind failed
  | key _ _ _ failed => exact ColumnType.bind_kind failed

/-!
## Bindings
-/

private theorem Refused.parameter_found {write : Write} {request : Request} {failure : Error}
    (refused : Refused write request failure) (index count : Nat) :
    failure ≠ .internal (.parameterIndex index count) := by
  cases refused with
  | closed _ => exact nofun
  | otherOperation _ _ => exact nofun
  | nullKey _ _ _ _ => exact nofun
  | conversion _ _ _ first =>
      rintro rfl
      rcases first.kind with impossible | impossible <;> cases impossible

private theorem call_parameter_found {run : Run} (ready : run.write.Ready) (call : Call)
    (index count : Nat) :
    (run.call call).1 ≠ .error (.internal (.parameterIndex index count)) := by
  have called := call_outcome ready call
  generalize run.call call = result at called ⊢
  cases called with
  | finish => exact nofun
  | request _ outcome =>
      cases outcome with
      | refused _ refused _ =>
          intro impossible
          exact refused.parameter_found index count (Except.error.inj impossible)
      | written _ _ _ => exact nofun
      | failed _ _ => exact nofun

private theorem answers_parameter_found {run : Run} (ready : run.write.Ready) (calls : List Call)
    (index count : Nat) :
    .error (.internal (.parameterIndex index count)) ∉ run.answers calls := by
  induction calls generalizing run with
  | nil => exact List.not_mem_nil
  | cons call rest ih =>
      intro member
      rcases List.mem_cons.mp member with first | later
      · exact call_parameter_found ready call index count first.symm
      · exact ih (call_ready ready call) later

/-- A prepared write has exactly one parameter for each value of a row. -/
theorem length_prepared {write : Write} {key : Option Datum}
    {bound : Option (KeyColumn × Datum)} (fits : write.plan.Fits write.relation) (tuple : Tuple)
    (success : write.boundKey key = .ok bound) :
    write.planned.parameters.length = (write.parameters tuple bound).length := by
  unfold planned
  rw [Remote.Statement.length_parameters_prepare, fits.placeholders,
    length_parameters tuple success]

/-- Statements of a relation have one placeholder for each value they take, whatever the
names of its table and columns are, so every row of a planned write finds its parameters. -/
theorem placeholders_match_values (relation : Relation) :
    (∀ used, countPlaceholders none (relation.selectStatement used).text.toList = 0) ∧
    (∀ targets columns keepExisting, relation.Live targets columns →
      ∃ statement, relation.insertStatement targets keepExisting = .ok statement ∧
        countPlaceholders none statement.text.toList = targets.length) ∧
    (∀ targets columns key, relation.Live targets columns → targets ≠ [] →
      ∃ statement, relation.updateStatement targets key = .ok statement ∧
        countPlaceholders none statement.text.toList = targets.length + 1) ∧
    (∀ key, countPlaceholders none (relation.deleteStatement key).text.toList = 1) ∧
    (∀ used, (Remote.Statement.prepare (ScanPlan.ofRelation relation used).sql
      (ScanPlan.ofRelation relation used).consistency).parameters = []) ∧
    (∀ write : Write, write.relation = relation → write.plan.Planned relation →
      ∀ tuple key bound, write.boundKey key = .ok bound →
        (Remote.Statement.prepare write.plan.sql write.plan.consistency).parameters.length =
          (write.parameters tuple bound).length) ∧
    ∀ (plan : WritePlan) (zone : Zone) (server : ServerOptions) (store : Store) (run : Run),
      plan.Planned relation → start server relation plan zone store = .ok run →
      ∀ calls index count,
        .error (.internal (.parameterIndex index count)) ∉ run.answers calls := by
  refine ⟨?_, ?_, ?_, ?_, ?_, ?_, ?_⟩
  · intro used
    exact Sql.Statement.countPlaceholders_text _
  · intro targets columns keepExisting live
    refine ⟨_, live.insertStatement keepExisting, ?_⟩
    rw [Sql.Statement.countPlaceholders_text, List.Forall₂.length_eq live]
    exact List.length_map _
  · intro targets columns key live assigned
    refine ⟨_, live.updateStatement assigned key, ?_⟩
    rw [Sql.Statement.countPlaceholders_text, List.Forall₂.length_eq live]
    exact congrArg (· + 1) (List.length_map _)
  · intro key
    exact Sql.Statement.countPlaceholders_text _
  · intro used
    apply List.eq_nil_of_length_eq_zero
    rw [Remote.Statement.length_parameters_prepare]
    exact Sql.Statement.countPlaceholders_text _
  · rintro write rfl planned tuple key bound success
    exact length_prepared planned.fits tuple success
  · intro plan zone server store run planned begun calls index count
    exact answers_parameter_found (start_ready planned begun) calls index count

theorem placeholders_match_values_awkward :
    ∃ columns run bound, awkward.Live [3, 2] columns ∧
      WritePlan.update awkward [3, 2] = .ok run.write.plan ∧
      start {} awkward run.write.plan Zone.utc {} = .ok run ∧
      run.write.boundKey (some counterKey) = .ok bound ∧
      (∃ statement, awkward.insertStatement [3, 2] true = .ok statement ∧
        countPlaceholders none statement.text.toList = 2) ∧
      (∀ key, ∃ statement, awkward.updateStatement [3, 2] key = .ok statement ∧
        countPlaceholders none statement.text.toList = 3) ∧
      (∀ tuple, (run.write.parameters tuple bound).length = 3) ∧
      ∀ calls index count,
        .error (.internal (.parameterIndex index count)) ∉ run.answers calls := by
  obtain ⟨columns, live⟩ := awkward_live
  obtain ⟨run, bound, updates, begun, relation, keyed, prepared⟩ : ∃ run bound,
      WritePlan.update awkward [3, 2] = .ok run.write.plan ∧
        start {} awkward run.write.plan Zone.utc {} = .ok run ∧
        run.write.relation = awkward ∧
        run.write.boundKey (some counterKey) = .ok bound ∧
        (Remote.Statement.prepare run.write.plan.sql
          run.write.plan.consistency).parameters.length = 3 :=
    ⟨⟨⟨awkward, _, _, _, _, _, _⟩, _⟩, _, rfl, rfl, rfl, rfl, rfl⟩
  obtain ⟨_, inserted, updated, _, _, fits, found⟩ := placeholders_match_values awkward
  refine ⟨columns, run, bound, live, updates, begun, keyed, inserted _ _ true live,
    fun key => updated _ _ key live (List.cons_ne_nil _ _), fun tuple => ?_,
    found _ _ _ _ _ (.update updates) begun⟩
  rw [← fits run.write relation (.update updates) tuple _ _ keyed]
  exact prepared

end Write

end ForeignTable
