import ForeignTable.Proofs.Materialize
import ForeignTable.Proofs.Scan.Rows

/-! Projection of a scan. Rows of the whole table, cut down to the used columns, materialize to
the tuples of the whole table with the other slots emptied. No value changes or moves, and no row
is lost. -/

set_option autoImplicit false

namespace ForeignTable

private theorem lookup_filter {Cell : Type} (keep : Nat → Bool) (cells : List (Nat × Cell))
    (key : Nat) :
    (cells.filter fun cell => keep cell.1).lookup key =
      if keep key then cells.lookup key else none := by
  induction cells with
  | nil => simp
  | cons cell rest ih =>
      obtain ⟨other, value⟩ := cell
      cases same : key == other with
      | true =>
          cases eq_of_beq same
          cases kept : keep key <;> simp [kept, ih]
      | false =>
          cases kept : keep other <;> simp [List.lookup_cons, kept, same, ih]

namespace Relation

/-- The cells of a row of the whole table, each with the ordinal of its column. -/
def cells (relation : Relation) (row : Remote.Row) : List (Nat × Option Remote.Value) :=
  (relation.liveColumns.map Column.ordinal).zip row

/-- A row of the whole table as a row of the used columns. A row without any of them has a null
instead. -/
def projectRow (relation : Relation) (used : UsedColumns) (row : Remote.Row) : Remote.Row :=
  if (relation.selectedColumns used).isEmpty then [none]
  else ((relation.cells row).filter fun cell => used.contains cell.1).map Prod.snd

/-- A tuple of the whole table with only the slots of live and used columns filled. -/
def narrowTuple (relation : Relation) (used : UsedColumns) (tuple : Tuple) : Tuple :=
  relation.columns.map fun column =>
    if !column.dropped && used.contains column.ordinal then tuple.value? column.ordinal
    else none

variable {relation : Relation} {used : UsedColumns} {zone : Zone} {row : Remote.Row} {tuple : Tuple}

theorem selectedOrdinals_eq_filter :
    (relation.selectedColumns used).map Column.ordinal =
      (relation.liveColumns.map Column.ordinal).filter used.contains := by
  rw [List.filter_map]
  rfl

private theorem map_fst_cells (sized : relation.liveColumns.map Column.ordinal = [] ∨
      (relation.liveColumns.map Column.ordinal).length = row.length) :
    (relation.cells row).map Prod.fst = relation.liveColumns.map Column.ordinal :=
  map_fst_zip_of_sized sized

private theorem map_fst_projected (sized : relation.liveColumns.map Column.ordinal = [] ∨
      (relation.liveColumns.map Column.ordinal).length = row.length) :
    ((relation.cells row).filter fun cell => used.contains cell.1).map Prod.fst =
      (relation.selectedColumns used).map Column.ordinal := by
  rw [selectedOrdinals_eq_filter, ← map_fst_cells sized, List.filter_map]
  rfl

private theorem sized_projectRow (sized : relation.liveColumns.map Column.ordinal = [] ∨
      (relation.liveColumns.map Column.ordinal).length = row.length) :
    (relation.selectedColumns used).map Column.ordinal = [] ∨
      ((relation.selectedColumns used).map Column.ordinal).length =
        (relation.projectRow used row).length := by
  unfold projectRow
  split
  · rename_i empty
    exact .inl (List.map_eq_nil_iff.mpr (List.isEmpty_iff.mp empty))
  · rw [← map_fst_projected sized, List.length_map, List.length_map]
    exact .inr rfl

private theorem zip_projectRow (sized : relation.liveColumns.map Column.ordinal = [] ∨
      (relation.liveColumns.map Column.ordinal).length = row.length) :
    ((relation.selectedColumns used).map Column.ordinal).zip (relation.projectRow used row) =
      (relation.cells row).filter fun cell => used.contains cell.1 := by
  have named : ((relation.cells row).filter fun cell => used.contains cell.1).map Prod.fst =
      (relation.selectedColumns used).map Column.ordinal := map_fst_projected sized
  unfold projectRow
  split
  · rename_i empty
    rw [List.isEmpty_iff.mp empty] at named ⊢
    rw [List.map_eq_nil_iff.mp named]
    rfl
  · exact (List.zip_of_prod named rfl).symm

/-- The projected row materializes to the narrowed tuple. -/
theorem materialize_projectRow
    (materialized : relation.materialize zone (ScanPlan.ofRelation relation .everything).retrieved
      row = .ok tuple) (used : UsedColumns) :
    relation.materialize zone (ScanPlan.ofRelation relation used).retrieved
      (relation.projectRow used row) = .ok (relation.narrowTuple used tuple) := by
  have sized := sized_of_materialize materialized
  have slots := slots_of_materialize materialized
  simp only [ScanPlan.ofRelation, selectedColumns_everything] at sized slots
  refine (materialize_selected (sized_projectRow sized)).trans ?_
  refine Attempt.mapM_eq_ok_iff.mpr (List.forall₂_map_right_iff.mpr ?_)
  refine List.forall₂_same.mpr ?_
  intro column member
  rw [zip_projectRow sized, lookup_filter]
  cases kept : used.contains column.ordinal with
  | false =>
      rw [Bool.and_false]
      rfl
  | true =>
      cases dropped : column.dropped with
      | false => exact value?_of_forall₂ slots member
      | true =>
          have absent : (relation.cells row).lookup column.ordinal = none :=
            lookup_of_dropped (fun _ => liveColumn_of_mem_live) member dropped
          rw [absent]
          rfl

private theorem value?_narrowTuple (ordinal : Nat) :
    (relation.narrowTuple used tuple).value? ordinal =
      if ordinal ∈ relation.liveColumns.map Column.ordinal ∧ used.contains ordinal then
        tuple.value? ordinal
      else none := by
  have slot : (relation.narrowTuple used tuple).value? ordinal =
      (relation.column? ordinal).bind fun column =>
        if !column.dropped && used.contains column.ordinal then tuple.value? column.ordinal
        else none := by
    cases ordinal with
    | zero => rfl
    | succ index =>
        simp only [narrowTuple, Tuple.value?, List.getElem?_map, column?]
        cases relation.columns[index]? <;> rfl
  rw [slot]
  split
  · rename_i chosen
    obtain ⟨live, kept⟩ := chosen
    obtain ⟨column, found, present⟩ := mem_liveOrdinals.mp live
    cases ordinal_of_column? found
    simp [found, present, kept]
  · rename_i left
    cases found : relation.column? ordinal with
    | none => rfl
    | some column =>
        cases ordinal_of_column? found
        refine if_neg ?_
        intro chosen
        obtain ⟨present, kept⟩ := Bool.and_eq_true_iff.mp chosen
        exact left ⟨mem_liveOrdinals.mpr ⟨column, found, by simpa using present⟩, kept⟩

end Relation

/-!
## Scans
-/

namespace Scan

open Remote (Row Store)

def Answer.map (change : Tuple → Tuple) : Answer → Answer
  | Answer.tuple slot => .tuple (slot.map change)
  | Answer.restarted => .restarted

private theorem cursorAnswers_map (change : Tuple → Tuple) (tuples : List Tuple) (position : Nat)
    (requests : List Request) :
    cursorAnswers (tuples.map change) position requests =
      (cursorAnswers tuples position requests).map (Answer.map change) := by
  induction requests generalizing position with
  | nil => rfl
  | cons request rest ih =>
      cases request with
      | rescan => exact congrArg (Answer.restarted :: ·) (ih 0)
      | next =>
          have moved : advance (tuples.map change) position = advance tuples position := by
            unfold advance
            rw [List.length_map]
          simp only [cursorAnswers, List.map_cons, Answer.map, List.getElem?_map, moved, ih]

variable {relation : Relation} {zone : Zone} {rows : List Row} {tuples : List Tuple}

/-- Rows of the whole table that materialize do so too when only the used columns are fetched,
row for row. The tuples keep the values of the live and used columns in their slots and lose the
others, and a scan of the used columns answers all requests as one of the whole table would, with
its tuples narrowed. -/
theorem projection_commutes
    (materialized : rows.mapM (relation.materialize zone
      (ScanPlan.ofRelation relation .everything).retrieved) = .ok tuples)
    (used : UsedColumns) :
    (ScanPlan.ofRelation relation used).retrieved =
        (relation.liveColumns.map Column.ordinal).filter used.contains ∧
      (rows.map (relation.projectRow used)).mapM
          (relation.materialize zone (ScanPlan.ofRelation relation used).retrieved) =
        .ok (tuples.map (relation.narrowTuple used)) ∧
      (∀ tuple ∈ tuples, (relation.narrowTuple used tuple).length = relation.columns.length ∧
        ∀ ordinal, (relation.narrowTuple used tuple).value? ordinal =
          if ordinal ∈ relation.liveColumns.map Column.ordinal ∧ used.contains ordinal then
            tuple.value? ordinal
          else none) ∧
      ∀ (server : ServerOptions) (store selecting : Store) (whole narrowed : Run)
        (requests : List Request),
        start server relation (ScanPlan.ofRelation relation .everything) zone store = .ok whole →
        store.answer 0 = .rows rows →
        start server relation (ScanPlan.ofRelation relation used) zone selecting = .ok narrowed →
        selecting.answer 0 = .rows (rows.map (relation.projectRow used)) →
        narrowed.answers requests =
          (whole.answers requests).map (Except.map (Answer.map (relation.narrowTuple used))) := by
  have slots := Attempt.mapM_eq_ok_iff.mp materialized
  have selected : List.Forall₂ (fun row tuple =>
      relation.materialize zone (ScanPlan.ofRelation relation used).retrieved row = .ok tuple)
      (rows.map (relation.projectRow used)) (tuples.map (relation.narrowTuple used)) := by
    refine List.forall₂_map_left_iff.mpr (List.forall₂_map_right_iff.mpr (slots.imp ?_))
    intro row tuple success
    exact Relation.materialize_projectRow success used
  refine ⟨Relation.selectedOrdinals_eq_filter, Attempt.mapM_eq_ok_iff.mpr selected, ?_, ?_⟩
  · intro tuple _
    exact ⟨List.length_map _, Relation.value?_narrowTuple⟩
  · intro server store selecting whole narrowed requests begun answer opened reply
    rw [(answers_eq_cursor begun answer slots requests).1,
      (answers_eq_cursor opened reply selected requests).1, cursorAnswers_map, List.map_map,
      List.map_map]
    rfl

def prices : Relation where
  schema := "shop"
  name := "prices"
  columns := [{ ordinal := 1, name := "item", columnType := .text },
    { ordinal := 2, name := "currency", columnType := .text, dropped := true },
    { ordinal := 3, name := "amount", columnType := .integer }]
  dense := ⟨rfl, rfl, rfl, trivial⟩

def priceRows : List Row := [[some (.text "tea"), some (.text "3")], [some (.text "salt"), none]]

def priceTuples : List Tuple :=
  [[some (.text "tea"), none, some (.integer ⟨3, by decide, by decide⟩)],
    [some (.text "salt"), none, none]]

theorem projection_commutes_prices :
    priceRows.mapM (prices.materialize Zone.utc
        (ScanPlan.ofRelation prices .everything).retrieved) = .ok priceTuples ∧
      [[some (.text "3")], [none]].mapM (prices.materialize Zone.utc [3]) =
        .ok [[none, none, some (.integer ⟨3, by decide, by decide⟩)], [none, none, none]] ∧
      [[none], [none]].mapM (prices.materialize Zone.utc []) =
        .ok [[none, none, none], [none, none, none]] ∧
      ∃ whole narrowed, start {} prices (ScanPlan.ofRelation prices .everything) Zone.utc
          { responses := [.rows priceRows] } = .ok whole ∧
        start {} prices (ScanPlan.ofRelation prices {}) Zone.utc
          { responses := [.rows [[none], [none]]] } = .ok narrowed ∧
        narrowed.answers [.next, .rescan, .next, .next, .next] =
          (whole.answers [.next, .rescan, .next, .next, .next]).map
            (Except.map (Answer.map fun _ => [none, none, none])) := by
  have materialized : priceRows.mapM (prices.materialize Zone.utc
      (ScanPlan.ofRelation prices .everything).retrieved) = .ok priceTuples := by decide
  have begun : start {} prices (ScanPlan.ofRelation prices .everything) Zone.utc
      { responses := [.rows priceRows] } = .ok ⟨_, _⟩ := rfl
  have opened : start {} prices (ScanPlan.ofRelation prices {}) Zone.utc
      { responses := [.rows [[none], [none]]] } = .ok ⟨_, _⟩ := rfl
  obtain ⟨_, amounts, _, _⟩ := projection_commutes materialized (.ofList [2, 3])
  obtain ⟨_, nothing, _, scanned⟩ := projection_commutes materialized {}
  exact ⟨materialized, amounts, nothing, _, _, begun, opened,
    scanned _ _ _ _ _ _ begun rfl opened rfl⟩

end Scan

end ForeignTable
