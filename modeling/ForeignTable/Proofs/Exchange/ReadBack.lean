import ForeignTable.Proofs.Materialize
import ForeignTable.Proofs.Scan.Rows
import ForeignTable.Proofs.Write.Record

/-! Inserted rows read back. The parameters that inserts leave on record are rows for a scan of
the whole table, which turns them into the inserted tuples in their order, each value as its
column type makes it of its own text. -/

set_option autoImplicit false

namespace ForeignTable

/-- What becomes of a value that is bound to a column and read back; a null stays one. -/
def Column.reread (column : Column) (zone : Zone) : Option Datum → Except Error (Option Datum)
  | none => .ok none
  | some datum => do
      let cell ← column.columnType.bind zone (some datum)
      column.readCell zone cell

/-- What becomes of a tuple that is inserted and read back, slot by slot. The slot of a dropped
column is empty. -/
def Relation.rereadTuple (relation : Relation) (zone : Zone) (tuple : Tuple) :
    Except Error Tuple :=
  relation.columns.mapM fun column =>
    if column.dropped then .ok none else column.reread zone (tuple.value? column.ordinal)

private theorem ColumnType.bind_none_eq_ok {columnType : ColumnType} {zone : Zone}
    {parameter : Option Remote.Value} (bound : columnType.bind zone none = .ok parameter) :
    parameter = none := by
  unfold bind at bound
  split at bound
  · cases bound
  · dsimp only at bound
    split at bound
    · cases bound
    · cases bound
      rfl

private theorem Column.reread_of_bound {column : Column} {zone : Zone} {value : Option Datum}
    {parameter : Option Remote.Value} (bound : column.columnType.bind zone value = .ok parameter) :
    column.reread zone value = column.readCell zone parameter := by
  cases value with
  | none =>
      cases ColumnType.bind_none_eq_ok bound
      rfl
  | some datum =>
      simp only [reread, bound]
      rfl

/-!
## Rows of bound cells
-/

private theorem lookup_zip_of_mem {Key Cell : Type} [BEq Key] [LawfulBEq Key]
    {related : Key → Cell → Prop}
    {keys : List Key} {cells : List Cell} (pointwise : List.Forall₂ related keys cells) {key : Key}
    (member : key ∈ keys) : ∃ cell, (keys.zip cells).lookup key = some cell ∧ related key cell := by
  induction pointwise with
  | nil => cases member
  | @cons first cell rest others head tail ih =>
      rw [List.zip_cons_cons, List.lookup_cons]
      cases same : key == first with
      | true =>
          cases eq_of_beq same
          exact ⟨cell, rfl, head⟩
      | false =>
          rcases List.mem_cons.mp member with here | later
          · exact absurd here (ne_of_beq_false same)
          · exact ih later

namespace Relation

variable {relation : Relation} {zone : Zone} {tuple : Tuple} {row : Remote.Row}

/-- The bound cells of a tuple materialize to the tuple as it is read back. -/
theorem materialize_cells (cells : List.Forall₂ (Write.CellOf relation zone tuple)
      (relation.liveColumns.map Column.ordinal) row) :
    relation.materialize zone (relation.liveColumns.map Column.ordinal) row =
      relation.rereadTuple zone tuple := by
  have live : ∀ ordinal ∈ relation.liveColumns.map Column.ordinal,
      ∃ column, relation.liveColumn ordinal = .ok column := fun _ => liveColumn_of_mem_live
  rw [materialize_eq_mapM liveOrdinals_ascending live (.inr cells.length_eq)]
  apply Attempt.mapM_congr
  intro column member
  have here := column?_of_mem member
  cases dropped : column.dropped with
  | true =>
      rw [lookup_of_dropped live member dropped]
      rfl
  | false =>
      have kept : column.ordinal ∈ relation.liveColumns.map Column.ordinal :=
        List.mem_map_of_mem (mem_liveColumns.mpr ⟨member, dropped⟩)
      obtain ⟨parameter, found, other, there, bound⟩ := lookup_zip_of_mem cells kept
      cases here.symm.trans there
      have slot : tuple.value? column.ordinal = (tuple[column.ordinal - 1]?).join := by
        have positive := relation.dense.le_ordinal member
        cases position : column.ordinal with
        | zero => omega
        | succ index => rfl
      rw [found, slot]
      exact (Column.reread_of_bound bound).symm

end Relation

/-!
## Inserts
-/

namespace Write

open Remote (Store Execution)

variable {relation : Relation} {plan : WritePlan} {zone : Zone} {run : Run} {tuples : List Tuple}

private theorem Run.insertAll_eq (run : Run) (tuples : List Tuple) :
    run.insertAll tuples =
      (run.answers (tuples.map Call.insert), run.calls (tuples.map Call.insert)) := by
  induction tuples generalizing run with
  | nil => rfl
  | cons tuple rest ih =>
      unfold Run.insertAll
      simp only [ih]
      rfl

private theorem reached_of_written
    (written : ∀ answer ∈ run.answers (tuples.map Call.insert), answer = .ok ()) :
    run.reached (tuples.map Call.insert) = tuples.map fun tuple => ⟨.insert, tuple, none⟩ := by
  induction tuples generalizing run with
  | nil => rfl
  | cons tuple rest ih =>
      obtain ⟨first, later⟩ := List.forall_mem_cons.mp written
      change (run.call (.insert tuple)).1 = .ok () at first
      change run.reaching (.insert tuple) ++ _ = _
      rw [ih later, Run.reaching, first]
      rfl

private theorem ofRequest_insert {assigned : List Nat}
    (planned : WritePlan.ofRequest relation .insert assigned none = .ok plan) :
    plan.targets = relation.liveColumns.map Column.ordinal := by
  change WritePlan.insert relation _ none = .ok plan at planned
  obtain ⟨_, columns, _, rfl⟩ := WritePlan.insert_eq_ok_iff.mp planned
  rfl

theorem Carries.cells {tuple : Tuple} {execution : Execution}
    (carries : Carries relation plan zone ⟨.insert, tuple, none⟩ execution) :
    List.Forall₂ (CellOf relation zone tuple) plan.targets execution.parameters := by
  obtain ⟨cells, keys, shape, targets, key⟩ := carries.parameters
  cases key with
  | absent _ _ =>
      rw [shape, List.append_nil]
      exact targets

end Write

/-!
## Inserts and a scan
-/

/-- A scan of the whole table over the parameters of successful inserts answers as a scan over
the inserted tuples, each read back slot by slot. If one of the values does not convert, its
error is all that the scan gives. -/
theorem scan_reads_inserted {server : ServerOptions} {relation : Relation}
    {assigned : List Nat} {plan : WritePlan} {zone : Zone} {store : Remote.Store}
    {run : Write.Run} {tuples : List Tuple}
    (planned : WritePlan.ofRequest relation .insert assigned none = .ok plan)
    (begun : Write.start server relation plan zone store = .ok run)
    (written : ∀ answer ∈ (run.insertAll tuples).1, answer = .ok ()) :
    plan.targets = (ScanPlan.ofRelation relation .everything).retrieved ∧
      ∃ sent, (run.insertAll tuples).2.store.executed = store.executed ++ sent ∧
        sent.length = tuples.length ∧
        ∀ (reader : ServerOptions) (later : Remote.Store) (scan : Scan.Run),
          Scan.start reader relation (ScanPlan.ofRelation relation .everything) zone later =
            .ok scan →
          later.answer 0 = .rows (sent.map Remote.Execution.parameters) →
          ∀ requests, scan.answers requests =
            Scan.answersTo (tuples.mapM (relation.rereadTuple zone)) requests := by
  have targets := Write.ofRequest_insert planned
  have retrieved : (ScanPlan.ofRelation relation .everything).retrieved =
      relation.liveColumns.map Column.ordinal :=
    congrArg _ Relation.selectedColumns_everything
  obtain ⟨setting, executed, _⟩ := Write.start_eq_ok begun
  obtain ⟨sent, recorded, carried⟩ := Write.calls_recorded
    (Write.start_ready (.request planned) begun) (tuples.map Write.Call.insert)
  rw [Write.Run.insertAll_eq] at written ⊢
  rw [Write.reached_of_written written, setting] at carried
  have each := List.forall₂_map_left_iff.mp carried
  refine ⟨targets.trans retrieved.symm, sent, executed ▸ recorded, each.length_eq.symm, ?_⟩
  intro reader later scan started answer requests
  have same : (sent.map Remote.Execution.parameters).mapM
      (relation.materialize zone (relation.liveColumns.map Column.ordinal)) =
        tuples.mapM (relation.rereadTuple zone) := by
    apply Attempt.mapM_eq_mapM
    apply List.forall₂_map_left_iff.mpr
    apply each.flip.imp
    intro execution tuple carries
    exact Relation.materialize_cells (targets ▸ carries.cells)
  rw [Scan.answers_eq_answersTo started answer, retrieved, same]

def parcels : Relation where
  schema := "shop"
  name := "parcels"
  columns := [{ ordinal := 1, name := "id", columnType := .integer },
    { ordinal := 2, name := "note", columnType := .text, dropped := true },
    { ordinal := 3, name := "label", columnType := .varchar (some 2) }]
  dense := ⟨rfl, rfl, rfl, trivial⟩

/-- A parcel with a value for the dropped column, and one that ends before its label. -/
def parcelRows : List Tuple :=
  [[some (.integer ⟨41, by decide, by decide⟩), some (.text "old"), some (.text "no")],
    [some (.integer ⟨42, by decide, by decide⟩)]]

theorem scan_reads_inserted_parcels :
    ∃ plan run, WritePlan.ofRequest parcels .insert [] none = .ok plan ∧
      Write.start {} parcels plan Zone.utc {} = .ok run ∧
      (∀ answer ∈ (run.insertAll parcelRows).1, answer = .ok ()) ∧
      plan.targets = (ScanPlan.ofRelation parcels .everything).retrieved ∧
      ∃ sent scan, (run.insertAll parcelRows).2.store.executed = [] ++ sent ∧
        sent.length = parcelRows.length ∧
        Scan.start {} parcels (ScanPlan.ofRelation parcels .everything) Zone.utc
          { responses := [.rows (sent.map Remote.Execution.parameters)] } = .ok scan ∧
        scan.answers [.next, .next, .next] =
          [.ok (.tuple (some [some (.integer ⟨41, by decide, by decide⟩), none,
              some (.text "no")])),
            .ok (.tuple (some [some (.integer ⟨42, by decide, by decide⟩), none, none])),
            .ok (.tuple none)] := by
  have planned : ∃ plan, WritePlan.ofRequest parcels .insert [] none = .ok plan := ⟨_, rfl⟩
  obtain ⟨plan, inserts⟩ := planned
  have begun : Write.start {} parcels plan Zone.utc {} = .ok ⟨_, _⟩ := rfl
  have written : ∀ answer ∈ (Write.Run.insertAll
      ⟨{ relation := parcels, plan, zone := Zone.utc }, { preparing := [true] }⟩ parcelRows).1,
      answer = .ok () := by
    cases inserts
    change ∀ answer ∈ [Except.ok (), .ok ()], answer = .ok ()
    simp
  obtain ⟨targets, sent, recorded, count, reads⟩ := scan_reads_inserted inserts begun written
  exact ⟨plan, _, inserts, begun, written, targets, sent, _, recorded, count, rfl,
    reads {} { responses := [.rows _] } _ rfl rfl _⟩

example : parcels.rereadTuple Zone.utc [none, none, some (.text "note")] =
    .error (.invalidArgument (.tooLong (.varchar (some 2)))) := rfl

end ForeignTable
