import ForeignTable.Proofs.Binding
import ForeignTable.Proofs.Write.Calls

/-! The record of a write operation. The statement that is kept and bound anew for every row
leaves no trace in it: an execution carries the converted cells and the key of its own row. -/

set_option autoImplicit false

namespace ForeignTable.Write

open Remote (Store Execution)

/-- The parameter of a target: the slot of its ordinal, converted under the type of its
column. A missing slot is null. -/
def CellOf (relation : Relation) (zone : Zone) (tuple : Tuple) (ordinal : Nat)
    (parameter : Option Remote.Value) : Prop :=
  ∃ column, relation.column? ordinal = some column ∧
    column.columnType.bind zone (tuple[ordinal - 1]?).join = .ok parameter

/-- The parameters after the targets: the converted key of an update or delete. -/
inductive KeyOf (plan : WritePlan) (zone : Zone) :
    Option Datum → List (Option Remote.Value) → Prop where
  | absent {key : Option Datum} : plan.operation.needsKey = false → plan.key = none →
      KeyOf plan zone key []
  | present {column : KeyColumn} {datum : Datum} {value : Remote.Value} :
      plan.operation.needsKey = true → plan.key = some column →
      column.columnType.bind zone (some datum) = .ok (some value) →
      KeyOf plan zone (some datum) [some value]

/-- The execution sends the statement of the plan with the parameters of the row. -/
structure Carries (relation : Relation) (plan : WritePlan) (zone : Zone) (request : Request)
    (execution : Execution) : Prop where
  operation : request.operation = plan.operation
  sql : execution.sql = plan.sql
  consistency : execution.consistency = plan.consistency
  parameters : ∃ cells keys, execution.parameters = cells ++ keys ∧
    List.Forall₂ (CellOf relation zone request.tuple) plan.targets cells ∧
    KeyOf plan zone request.key keys

/-- No null stands for a smallint column or for the key. -/
structure NullSafe (relation : Relation) (plan : WritePlan) (execution : Execution) :
    Prop where
  smallint : ∀ (position ordinal : Nat) (column : Column),
    plan.targets[position]? = some ordinal → relation.column? ordinal = some column →
    column.columnType = .smallint →
    ∃ value, execution.parameters[position]? = some (some value)
  key : ∀ column ∈ plan.key,
    ∃ value, execution.parameters[plan.targets.length]? = some (some value)

/-!
## One execution
-/

variable {relation : Relation} {plan : WritePlan} {zone : Zone} {request : Request}

private theorem cellOf_rightUnique {tuple : Tuple} :
    Relator.RightUnique (CellOf relation zone tuple) := by
  rintro ordinal first second ⟨column, found, bound⟩ ⟨other, again, same⟩
  cases found.symm.trans again
  cases bound.symm.trans same
  rfl

theorem KeyOf.unique {key : Option Datum} {first second : List (Option Remote.Value)}
    (left : KeyOf plan zone key first) (right : KeyOf plan zone key second) :
    first = second := by
  cases left with
  | absent unkeyed _ =>
      cases right with
      | absent _ _ => rfl
      | present keyed _ _ => cases unkeyed.symm.trans keyed
  | present keyed found bound =>
      cases right with
      | absent unkeyed _ => cases unkeyed.symm.trans keyed
      | present _ again same =>
          cases found.symm.trans again
          cases bound.symm.trans same
          rfl

private theorem KeyOf.getElem?_zero {key : Option Datum} {keys : List (Option Remote.Value)}
    (bound : KeyOf plan zone key keys) {column : KeyColumn} (keyed : plan.key = some column) :
    ∃ value, keys[0]? = some (some value) := by
  cases bound with
  | absent _ missing => cases missing.symm.trans keyed
  | present _ _ _ => exact ⟨_, rfl⟩

/-- The row and the plan determine the execution. -/
theorem Carries.unique {first second : Execution}
    (left : Carries relation plan zone request first)
    (right : Carries relation plan zone request second) : first = second := by
  obtain ⟨cells, keys, shape, targets, key⟩ := left.parameters
  obtain ⟨otherCells, otherKeys, otherShape, otherTargets, otherKey⟩ := right.parameters
  have sameCells : cells = otherCells :=
    List.right_unique_forall₂' cellOf_rightUnique targets otherTargets
  have sameKeys : keys = otherKeys := key.unique otherKey
  have sameParameters : first.parameters = second.parameters := by
    rw [shape, otherShape, sameCells, sameKeys]
  have sameSql := left.sql.trans right.sql.symm
  have sameConsistency := left.consistency.trans right.consistency.symm
  cases first
  cases second
  cases sameSql
  cases sameParameters
  cases sameConsistency
  rfl

private theorem Carries.nullSafe {execution : Execution}
    (carries : Carries relation plan zone request execution) :
    NullSafe relation plan execution := by
  obtain ⟨cells, keys, shape, targets, key⟩ := carries.parameters
  have size := targets.length_eq
  constructor
  · intro position ordinal column target found small
    obtain ⟨inside, rfl⟩ := List.getElem?_eq_some_iff.mp target
    have other : position < cells.length := size ▸ inside
    obtain ⟨again, located, bound⟩ := targets.get inside other
    cases found.symm.trans located
    rw [shape, List.getElem?_append_left other, List.getElem?_eq_getElem other]
    cases parameter : cells[position] with
    | some value => exact ⟨value, rfl⟩
    | none =>
        simp only [List.get_eq_getElem, parameter] at bound
        exact absurd small (ColumnType.bind_eq_ok_none bound).2
  · intro column keyed
    rw [shape, List.getElem?_append_right (Nat.le_of_eq size.symm), size, Nat.sub_self]
    exact key.getElem?_zero keyed

private theorem cellOf_targetParameter {write : Write} {tuple : Tuple} {ordinal : Nat}
    {parameter : Option Remote.Value}
    (converted : write.targetParameter tuple ordinal = .ok parameter) :
    CellOf write.relation write.zone tuple ordinal parameter := by
  obtain ⟨column, live, bound⟩ := Attempt.bind_eq_ok_iff.mp converted
  obtain ⟨found, _⟩ := Relation.liveColumn_eq_ok_iff.mp live
  refine ⟨column, found, ?_⟩
  cases ordinal with
  | zero => cases found
  | succ index => exact bound

/-- A row that is sent goes out with exactly its own parameters. -/
theorem Accepted.carries {write : Write} {parameters : List (Option Remote.Value)}
    (accepted : Accepted write request parameters) (ready : write.Ready) :
    Carries write.relation write.plan write.zone request
      (Store.execution (write.boundPlan parameters)) := by
  refine ⟨accepted.operation.symm, rfl, rfl, ?_⟩
  obtain ⟨cells, targets, continuation⟩ := Attempt.bind_eq_ok_iff.mp accepted.converted
  have each := (Attempt.mapM_eq_ok_iff.mp targets).imp
    fun _ _ => cellOf_targetParameter
  have keyed := ready.fits.keyed
  cases planKey : write.plan.key with
  | none =>
      rw [planKey] at continuation keyed
      cases continuation
      exact ⟨parameters, [], (List.append_nil _).symm, each, .absent keyed.symm planKey⟩
  | some column =>
      have present := accepted.keyed (by rw [planKey]; rfl)
      obtain ⟨datum, requestKey⟩ := Option.isSome_iff_exists.mp present
      rw [planKey] at continuation keyed
      rw [requestKey] at continuation ⊢
      obtain ⟨parameter, bound, shape⟩ := Attempt.bind_eq_ok_iff.mp continuation
      cases shape
      cases parameter with
      | none => cases (ColumnType.bind_eq_ok_none bound).1
      | some value => exact ⟨cells, [some value], rfl, each, .present keyed.symm planKey bound⟩

/-!
## The record of a run
-/

/-- True for the answers that the store gave: a row written, or a failure in its words. -/
def fromStore : Except Error Unit → Bool
  | .ok () => true
  | .error failure => failure.kind == .remoteExecution

namespace Run

def reaching (run : Run) (call : Call) : List Request :=
  if fromStore (run.call call).1 then call.request?.toList else []

/-- The rows that the store answered for, in the order of their calls. -/
def reached (run : Run) : List Call → List Request
  | [] => []
  | call :: rest => run.reaching call ++ (run.call call).2.reached rest

end Run

/-- One call records the row that the store answers for, and nothing else. -/
theorem call_recorded {run : Run} (ready : run.write.Ready) (call : Call) :
    ∃ sent, (run.call call).2.store.executed = run.store.executed ++ sent ∧
      List.Forall₂ (Carries run.write.relation run.write.plan run.write.zone)
        (run.reaching call) sent := by
  have called := call_outcome ready call
  unfold Run.reaching
  generalize run.call call = result at called ⊢
  cases called with
  | finish =>
      refine ⟨[], ?_, .nil⟩
      rw [finish_executed, List.append_nil]
  | request asks outcome =>
      rw [asks]
      cases outcome with
      | refused _ refused _ =>
          have silent : (_ == ErrorKind.remoteExecution) = false :=
            beq_eq_false_iff_ne.mpr refused.not_remote
          refine ⟨[], (List.append_nil _).symm, ?_⟩
          simp only [fromStore, silent]
          exact .nil
      | @written parameters _ _ accepted _ _ =>
          refine ⟨[Store.execution (run.write.boundPlan parameters)], ?_, ?_⟩
          · exact Store.executed_execute _ _
          · exact .cons (accepted.carries ready) .nil
      | @failed parameters _ accepted _ =>
          refine ⟨[Store.execution (run.write.boundPlan parameters)], ?_, ?_⟩
          · exact (Remote.Session.executed_release _ _).trans (Store.executed_execute _ _)
          · exact .cons (accepted.carries ready) .nil

theorem calls_recorded {run : Run} (ready : run.write.Ready) (calls : List Call) :
    ∃ sent, (run.calls calls).store.executed = run.store.executed ++ sent ∧
      List.Forall₂ (Carries run.write.relation run.write.plan run.write.zone)
        (run.reached calls) sent := by
  induction calls generalizing run with
  | nil => exact ⟨[], (List.append_nil _).symm, .nil⟩
  | cons call rest ih =>
      obtain ⟨first, recorded, carried⟩ := call_recorded ready call
      obtain ⟨later, remaining, others⟩ := ih (call_ready ready call)
      obtain ⟨relation, plan, zone⟩ := call_setting ready call
      rw [relation, plan, zone] at others
      refine ⟨first ++ later, ?_, List.rel_append carried others⟩
      change ((run.call call).2.calls rest).store.executed = _
      rw [remaining, recorded, List.append_assoc]

/-- Whatever was called before, the store has on record exactly the rows it answered for,
each under the statement of the plan with the parameters of that row alone. -/
theorem recorded_parameters_exact {server : ServerOptions} {store : Store} {run : Run}
    (planned : plan.Planned relation) (begun : start server relation plan zone store = .ok run)
    (calls : List Call) :
    ∃ sent, (run.calls calls).store.executed = store.executed ++ sent ∧
      List.Forall₂ (Carries relation plan zone) (run.reached calls) sent ∧
      (∀ execution ∈ sent, NullSafe relation plan execution) ∧
      ∀ request first second, Carries relation plan zone request first →
        Carries relation plan zone request second → first = second := by
  obtain ⟨shape, executed, _⟩ := start_eq_ok begun
  obtain ⟨sent, recorded, carried⟩ := calls_recorded (start_ready planned begun) calls
  rw [shape] at carried
  refine ⟨sent, executed ▸ recorded, carried, ?_, fun _ _ _ => Carries.unique⟩
  intro execution member
  obtain ⟨position, inside, rfl⟩ := List.mem_iff_getElem.mp member
  exact (carried.get (carried.length_eq ▸ inside) inside).nullSafe

theorem recorded_parameters_exact_counters :
    ∃ plan run, WritePlan.update counters [1, 2] = .ok plan ∧
      start {} counters plan Zone.utc {} = .ok run ∧
      (run.reached counterCalls).length = 1 ∧
      ∃ sent, (run.calls counterCalls).store.executed = [] ++ sent ∧
        List.Forall₂ (Carries counters plan Zone.utc) (run.reached counterCalls) sent ∧
        (∀ execution ∈ sent, NullSafe counters plan execution) ∧
        ∀ request first second, Carries counters plan Zone.utc request first →
          Carries counters plan Zone.utc request second → first = second := by
  have planned : ∃ plan, WritePlan.update counters [1, 2] = .ok plan := ⟨_, rfl⟩
  obtain ⟨plan, updates⟩ := planned
  have begun : start {} counters plan Zone.utc {} = .ok ⟨_, _⟩ := rfl
  refine ⟨plan, _, updates, begun, ?_, recorded_parameters_exact (.update updates) begun _⟩
  cases updates
  rfl

end ForeignTable.Write
