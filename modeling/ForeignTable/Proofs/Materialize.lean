import ForeignTable.Proofs.Attempt
import ForeignTable.Proofs.Materializer
import ForeignTable.Sql.Statement

/-! Tuples of remote rows. Cells are placed one after another along the retrieved ordinals; the
tuple can be read off slot by slot instead, each slot from the cell of its own column. -/

set_option autoImplicit false

namespace ForeignTable

/-!
## Columns by their ordinals
-/

namespace Dense

variable {next : Nat} {columns : List Column} {column : Column}

theorem le_ordinal (dense : Dense next columns) (member : column ∈ columns) :
    next ≤ column.ordinal := by
  obtain ⟨index, found⟩ := List.mem_iff_getElem?.mp member
  have counted := dense.ordinal_of_getElem? found
  omega

theorem ascending (dense : Dense next columns) :
    (columns.map Column.ordinal).Pairwise (· < ·) := by
  induction columns generalizing next with
  | nil => exact .nil
  | cons first rest ih =>
      obtain ⟨rfl, later⟩ := dense
      refine .cons ?_ (ih later)
      intro ordinal member
      obtain ⟨column, inside, rfl⟩ := List.mem_map.mp member
      exact later.le_ordinal inside

end Dense

namespace Relation

variable {relation : Relation} {column : Column}

theorem column?_of_mem (member : column ∈ relation.columns) :
    relation.column? column.ordinal = some column := by
  obtain ⟨index, found⟩ := List.mem_iff_getElem?.mp member
  rw [relation.dense.ordinal_of_getElem? found, Nat.add_comm]
  exact found

theorem mem_of_column? {ordinal : Nat} (found : relation.column? ordinal = some column) :
    column ∈ relation.columns := by
  cases ordinal with
  | zero => cases found
  | succ index => exact List.mem_of_getElem? found

theorem mem_liveColumns :
    column ∈ relation.liveColumns ↔ column ∈ relation.columns ∧ column.dropped = false := by
  simp [liveColumns]

private theorem ordinal_of_liveColumn {ordinal : Nat}
    (live : relation.liveColumn ordinal = .ok column) :
    column.ordinal = ordinal :=
  ordinal_of_column? (liveColumn_eq_ok_iff.mp live).1

theorem liveColumn_of_mem (live : column ∈ relation.liveColumns) :
    relation.liveColumn column.ordinal = .ok column := by
  obtain ⟨member, kept⟩ := mem_liveColumns.mp live
  exact liveColumn_eq_ok_iff.mpr ⟨column?_of_mem member, kept⟩

theorem liveOrdinals_ascending :
    (relation.liveColumns.map Column.ordinal).Pairwise (· < ·) :=
  relation.dense.ascending.sublist (List.filter_sublist.map _)

/-- The columns in front of a live column are the live ones with a smaller ordinal. -/
theorem mem_front_iff {front back : List Column} {other : Column}
    (split : relation.liveColumns = front ++ column :: back) :
    other ∈ front ↔ other ∈ relation.liveColumns ∧ other.ordinal < column.ordinal := by
  have ascending : (relation.liveColumns.map Column.ordinal).Pairwise (· < ·) :=
    liveOrdinals_ascending
  rw [split, List.map_append, List.map_cons, List.pairwise_append, List.pairwise_cons] at ascending
  obtain ⟨_, ⟨behind, _⟩, between⟩ := ascending
  rw [split, List.mem_append, List.mem_cons]
  constructor
  · intro before
    exact ⟨.inl before, between _ (List.mem_map_of_mem before) _ List.mem_cons_self⟩
  · rintro ⟨before | rfl | after, smaller⟩
    · exact before
    · exact absurd smaller (Nat.lt_irrefl _)
    · exact absurd (behind _ (List.mem_map_of_mem after)) (Nat.lt_asymm smaller)

theorem selectedColumns_everything :
    relation.selectedColumns .everything = relation.liveColumns :=
  List.filter_eq_self.mpr fun _ _ => rfl

theorem exists_mem_ordinal_iff {holds : Column → Prop} {ordinal : Nat} :
    (∃ column ∈ relation.columns, holds column ∧ column.ordinal = ordinal) ↔
      ∃ column, relation.column? ordinal = some column ∧ holds column := by
  constructor
  · rintro ⟨column, member, here, rfl⟩
    exact ⟨column, column?_of_mem member, here⟩
  · rintro ⟨column, found, here⟩
    exact ⟨column, mem_of_column? found, here, ordinal_of_column? found⟩

theorem column?_eq_none_iff {ordinal : Nat} :
    relation.column? ordinal = none ↔ ordinal = 0 ∨ relation.columns.length < ordinal := by
  cases ordinal with
  | zero => simp [column?]
  | succ index =>
      rw [column?, List.getElem?_eq_none_iff]
      omega

/-- A column that has not been dropped has the ordinal. -/
def IsLive (relation : Relation) (ordinal : Nat) : Prop :=
  ∃ column ∈ relation.columns, column.dropped = false ∧ column.ordinal = ordinal

theorem isLive_iff_mem {ordinal : Nat} :
    relation.IsLive ordinal ↔ ordinal ∈ relation.liveColumns.map Column.ordinal := by
  simp only [IsLive, List.mem_map, mem_liveColumns, and_assoc]

theorem isLive_iff_liveColumn {ordinal : Nat} :
    relation.IsLive ordinal ↔ ∃ column, relation.liveColumn ordinal = .ok column := by
  simp only [IsLive, exists_mem_ordinal_iff, liveColumn_eq_ok_iff]

/-- Zero, an ordinal past the last column and the ordinal of a dropped column are not live. -/
theorem not_isLive_iff {ordinal : Nat} :
    ¬relation.IsLive ordinal ↔ ordinal = 0 ∨ relation.columns.length < ordinal ∨
      ∃ column ∈ relation.columns, column.dropped = true ∧ column.ordinal = ordinal := by
  rw [← or_assoc, ← column?_eq_none_iff, IsLive, exists_mem_ordinal_iff, exists_mem_ordinal_iff]
  cases relation.column? ordinal with
  | none => simp
  | some column => simp

end Relation

/-!
## One cell
-/

/-- What a cell leaves in the slot of its column; a null leaves nothing. -/
def Column.readCell (column : Column) (zone : Zone) :
    Option Remote.Value → Except Error (Option Datum)
  | none => .ok none
  | some value => (Relation.datumOfCell zone column value).map some

namespace Relation

variable {relation : Relation} {column : Column} {zone : Zone}

/-- The cell of a live column goes into the empty slot of the column. -/
theorem placeCell_of_live {front back : Tuple} {ordinal : Nat}
    (live : relation.liveColumn ordinal = .ok column) (position : ordinal = front.length + 1)
    (cell : Option Remote.Value) :
    relation.placeCell zone (front ++ none :: back) ordinal cell =
      (column.readCell zone cell).map fun slot => front ++ slot :: back := by
  subst position
  unfold placeCell
  rw [live]
  cases cell with
  | none => rfl
  | some value =>
      simp only [Column.readCell, bind, Except.bind]
      cases datumOfCell zone column value with
      | error failure => rfl
      | ok datum => simp [Except.map, pure, Except.pure]

/-!
## Rows
-/

/-- Each cell belongs to a live column among these, in the order of the columns. -/
structure Along (relation : Relation) (columns : List Column)
    (cells : List (Nat × Option Remote.Value)) : Prop where
  ascending : (cells.map Prod.fst).Pairwise (· < ·)
  live : ∀ cell ∈ cells, ∃ column ∈ columns, relation.liveColumn cell.1 = .ok column

variable {next : Nat} {columns : List Column} {cells : List (Nat × Option Remote.Value)}

private theorem Along.lookup_eq_none (along : relation.Along columns cells)
    (dense : Dense next columns)
    {ordinal : Nat} (earlier : ordinal < next) : cells.lookup ordinal = none := by
  apply List.lookup_eq_none_iff.mpr
  intro cell member
  obtain ⟨column, inside, live⟩ := along.live cell member
  have behind := dense.le_ordinal inside
  rw [ordinal_of_liveColumn live] at behind
  exact bne_iff_ne.mpr (by omega)

/-- The cell of the first column is the first one, or it is not there. -/
theorem Along.first (along : relation.Along (column :: columns) cells)
    (dense : Dense (column.ordinal + 1) columns) :
    (∃ cell others, cells = (column.ordinal, cell) :: others ∧
      relation.liveColumn column.ordinal = .ok column ∧ relation.Along columns others) ∨
    relation.Along columns cells := by
  obtain ⟨ascending, live⟩ := along
  have later : ∀ cell ∈ cells, cell.1 ≠ column.ordinal →
      ∃ other ∈ columns, relation.liveColumn cell.1 = .ok other := by
    intro cell member apart
    obtain ⟨other, inside, found⟩ := live cell member
    rcases List.mem_cons.mp inside with rfl | behind
    · exact absurd (ordinal_of_liveColumn found).symm apart
    · exact ⟨other, behind, found⟩
  cases cells with
  | nil => exact .inr ⟨.nil, nofun⟩
  | cons first others =>
      obtain ⟨above, rest⟩ := List.pairwise_cons.mp ascending
      have behind : ∀ cell ∈ others, first.1 < cell.1 := by
        intro cell member
        exact above cell.1 (List.mem_map_of_mem member)
      by_cases here : first.1 = column.ordinal
      · obtain ⟨other, inside, found⟩ := live first List.mem_cons_self
        have same : other = column := by
          rcases List.mem_cons.mp inside with same | after
          · exact same
          · have far := dense.le_ordinal after
            rw [ordinal_of_liveColumn found] at far
            omega
        subst same
        refine .inl ⟨first.2, others, ?_, here ▸ found, rest, ?_⟩
        · rw [← here]
        · intro cell member
          have far := behind cell member
          exact later cell (List.mem_cons_of_mem _ member) (by omega)
      · obtain ⟨other, after, found⟩ := later first List.mem_cons_self here
        have far := dense.le_ordinal after
        rw [ordinal_of_liveColumn found] at far
        refine .inr ⟨ascending, List.forall_mem_cons.mpr ⟨⟨other, after, found⟩, ?_⟩⟩
        intro cell member
        have farther := behind cell member
        exact later cell (List.mem_cons_of_mem _ member) (by omega)

/-- The tuple so far stands in front, and the columns that are left have empty slots. -/
theorem foldlM_placeCell {front : Tuple} (dense : Dense (front.length + 1) columns)
    (along : relation.Along columns cells) :
    cells.foldlM (fun tuple (ordinal, cell) => relation.placeCell zone tuple ordinal cell)
        (front ++ columns.map fun _ => none) =
      (columns.mapM fun (column : Column) =>
        column.readCell zone (cells.lookup column.ordinal).join).map (front ++ ·) := by
  induction columns generalizing front cells with
  | nil =>
      cases cells with
      | nil => rfl
      | cons cell others =>
          obtain ⟨_, impossible, _⟩ := along.live cell List.mem_cons_self
          cases impossible
  | cons column rest ih =>
      obtain ⟨position, later⟩ := dense
      have longer : ∀ slot : Option Datum, Dense ((front ++ [slot]).length + 1) rest := by
        intro slot
        rw [List.length_append]
        exact later
      have regroup : ∀ (slot : Option Datum) (slots : Except Error Tuple),
          slots.map (front ++ [slot] ++ ·) =
            (slots >>= fun others => pure (slot :: others)).map (front ++ ·) := by
        intro slot slots
        cases slots with
        | error failure => rfl
        | ok others => simp [Except.map, pure, Except.pure, bind, Except.bind]
      rw [List.mapM_cons, List.map_cons]
      -- the slot of the first column is filled now or never
      rcases along.first (position ▸ later) with ⟨cell, others, rfl, live, along⟩ | along
      · have kept : ∀ other ∈ rest,
            ((column.ordinal, cell) :: others).lookup other.ordinal =
              others.lookup other.ordinal := by
          intro other member
          have far := later.le_ordinal member
          have apart : (other.ordinal == column.ordinal) = false :=
            beq_eq_false_iff_ne.mpr (by omega)
          rw [List.lookup_cons, apart]
        have slots : (rest.mapM fun (other : Column) => other.readCell zone
              (((column.ordinal, cell) :: others).lookup other.ordinal).join) =
            rest.mapM fun other => other.readCell zone (others.lookup other.ordinal).join := by
          apply Attempt.mapM_congr
          intro other member
          rw [kept other member]
        rw [List.foldlM_cons]
        dsimp only
        rw [placeCell_of_live live position, List.lookup_cons_self, slots]
        cases read : column.readCell zone cell with
        | error failure =>
            rw [Option.join_some, read]
            rfl
        | ok slot =>
            have placed := ih (longer slot) along
            rw [regroup, List.append_assoc] at placed
            rw [Option.join_some, read]
            exact placed
      · have absent : cells.lookup column.ordinal = none :=
          along.lookup_eq_none later (by omega)
        have placed := ih (longer none) along
        rw [regroup, List.append_assoc] at placed
        rw [absent]
        exact placed

/-- A row along ascending live columns becomes a tuple slot by slot: the slot of a column holds
what its cell leaves, and nothing if the column has no cell. -/
theorem materialize_eq_mapM {retrieved : List Nat} {row : Remote.Row}
    (ascending : retrieved.Pairwise (· < ·))
    (live : ∀ ordinal ∈ retrieved, ∃ column, relation.liveColumn ordinal = .ok column)
    (sized : retrieved = [] ∨ retrieved.length = row.length) :
    relation.materialize zone retrieved row =
      relation.columns.mapM fun column =>
        column.readCell zone ((retrieved.zip row).lookup column.ordinal).join := by
  have along : relation.Along relation.columns (retrieved.zip row) := by
    constructor
    · rw [map_fst_zip_of_sized sized]
      exact ascending
    · intro cell member
      obtain ⟨column, found⟩ := live cell.1 (List.of_mem_zip member).1
      exact ⟨column, mem_of_column? (liveColumn_eq_ok_iff.mp found).1, found⟩
  have dense : Dense (([] : Tuple).length + 1) relation.columns := relation.dense
  rw [materialize_of_sized sized]
  exact (foldlM_placeCell dense along).trans (congrFun Except.map_id _)

theorem lookup_of_dropped {retrieved : List Nat} {row : Remote.Row}
    (live : ∀ ordinal ∈ retrieved, ∃ column, relation.liveColumn ordinal = .ok column)
    (member : column ∈ relation.columns) (dropped : column.dropped = true) :
    (retrieved.zip row).lookup column.ordinal = none := by
  apply List.lookup_eq_none_iff.mpr
  intro cell inside
  obtain ⟨other, found⟩ := live cell.1 (List.of_mem_zip inside).1
  obtain ⟨there, kept⟩ := liveColumn_eq_ok_iff.mp found
  apply bne_iff_ne.mpr
  intro same
  rw [← same] at there
  cases (column?_of_mem member).symm.trans there
  cases dropped.symm.trans kept

theorem sized_of_materialize {retrieved : List Nat} {row : Remote.Row} {tuple : Tuple}
    (materialized : relation.materialize zone retrieved row = .ok tuple) :
    retrieved = [] ∨ retrieved.length = row.length := by
  apply Classical.byContradiction
  intro unsized
  obtain ⟨filled, other⟩ := not_or.mp unsized
  rw [materialize_of_other_shape filled other] at materialized
  cases materialized

/-!
## Rows of a scan
-/

variable {used : UsedColumns} {row : Remote.Row} {tuple : Tuple}

theorem mem_liveOrdinals {ordinal : Nat} : ordinal ∈ relation.liveColumns.map Column.ordinal ↔
    ∃ column, relation.column? ordinal = some column ∧ column.dropped = false := by
  rw [← isLive_iff_mem, IsLive, exists_mem_ordinal_iff]

theorem liveColumn_of_mem_live {ordinal : Nat}
    (member : ordinal ∈ relation.liveColumns.map Column.ordinal) :
    ∃ column, relation.liveColumn ordinal = .ok column :=
  isLive_iff_liveColumn.mp (isLive_iff_mem.mpr member)

/-- The row of a selection becomes a tuple slot by slot. -/
theorem materialize_selected
    (sized : (relation.selectedColumns used).map Column.ordinal = [] ∨
      ((relation.selectedColumns used).map Column.ordinal).length = row.length) :
    relation.materialize zone ((relation.selectedColumns used).map Column.ordinal) row =
      relation.columns.mapM fun column => column.readCell zone
        ((((relation.selectedColumns used).map Column.ordinal).zip row).lookup
          column.ordinal).join := by
  have among : ((relation.selectedColumns used).map Column.ordinal).Sublist
      (relation.liveColumns.map Column.ordinal) := List.filter_sublist.map _
  apply materialize_eq_mapM (liveOrdinals_ascending.sublist among) _ sized
  intro ordinal member
  exact liveColumn_of_mem_live (among.subset member)

theorem slots_of_materialize
    (materialized : relation.materialize zone
      ((relation.selectedColumns used).map Column.ordinal) row = .ok tuple) :
    List.Forall₂ (fun column slot => column.readCell zone
        ((((relation.selectedColumns used).map Column.ordinal).zip row).lookup
          column.ordinal).join = .ok slot) relation.columns tuple := by
  rw [materialize_selected (sized_of_materialize materialized)] at materialized
  exact Attempt.mapM_eq_ok_iff.mp materialized

/-- What holds of the slots one after another holds of each by its ordinal. -/
theorem value?_of_forall₂ {holds : Column → Option Datum → Prop}
    (slots : List.Forall₂ holds relation.columns tuple) (member : column ∈ relation.columns) :
    holds column (tuple.value? column.ordinal) := by
  obtain ⟨index, inside, found⟩ := List.mem_iff_getElem.mp member
  have counted : column.ordinal = index + 1 := by
    rw [relation.dense.ordinal_of_getElem? (List.getElem?_eq_some_iff.mpr ⟨inside, found⟩),
      Nat.add_comm]
  have within : index < tuple.length := slots.length_eq ▸ inside
  have here := slots.get inside within
  rw [counted]
  simpa [Tuple.value?, List.getElem?_eq_getElem within, ← found] using here

end Relation

end ForeignTable
