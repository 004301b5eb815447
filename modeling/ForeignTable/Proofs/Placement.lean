import ForeignTable.Proofs.Materialize

/-! Rows with their cells in any order. Cells are read along the row, so the first one that cannot
be converted decides the failure; the data of the others stand in the slots of their ordinals. -/

set_option autoImplicit false

namespace ForeignTable

/-!
## Slots
-/

/-- Puts a datum into the slot of its ordinal; without a datum the slot stays as it is. -/
def Tuple.place (tuple : Tuple) : Nat × Option Datum → Tuple
  | (_, none) => tuple
  | (ordinal, some datum) => tuple.set (ordinal - 1) (some datum)

namespace Tuple

private theorem length_foldl_place (tuple : Tuple) (placed : List (Nat × Option Datum)) :
    (placed.foldl place tuple).length = tuple.length := by
  induction placed generalizing tuple with
  | nil => rfl
  | cons first rest ih =>
      rw [List.foldl_cons, ih]
      obtain ⟨ordinal, slot⟩ := first
      cases slot with
      | none => rfl
      | some datum => exact List.length_set

/-- Behind an ordinal that is placed once, an empty slot holds what was placed at its ordinal. -/
theorem getElem?_foldl_place {tuple : Tuple} {placed : List (Nat × Option Datum)}
    (distinct : (placed.map Prod.fst).Nodup)
    (empty : ∀ ordinal ∈ placed.map Prod.fst, 0 < ordinal ∧ tuple[ordinal - 1]? = some none)
    {index : Nat} {datum : Datum} :
    (placed.foldl place tuple)[index]? = some (some datum) ↔
      tuple[index]? = some (some datum) ∨ (index + 1, some datum) ∈ placed := by
  induction placed generalizing tuple with
  | nil => simp
  | cons first rest ih =>
      obtain ⟨ordinal, slot⟩ := first
      obtain ⟨fresh, others⟩ := List.nodup_cons.mp distinct
      obtain ⟨⟨positive, here⟩, vacant⟩ := List.forall_mem_cons.mp empty
      rw [List.foldl_cons]
      cases slot with
      | none =>
          rw [place, ih others vacant, List.mem_cons]
          simp
      | some stored =>
          have apart : ∀ other ∈ rest.map Prod.fst,
              0 < other ∧ (tuple.place (ordinal, some stored))[other - 1]? = some none := by
            intro other member
            obtain ⟨above, free⟩ := vacant other member
            have differs : ordinal ≠ other := by
              intro same
              exact fresh (same ▸ member)
            refine ⟨above, ?_⟩
            rw [place, List.getElem?_set_ne (by omega), free]
          rw [ih others apart, place, List.mem_cons]
          by_cases same : index + 1 = ordinal
          · subst same
            have inside : index < tuple.length := (List.getElem?_eq_some_iff.mp here).1
            rw [Nat.add_sub_cancel] at here ⊢
            rw [List.getElem?_set_self inside, here]
            simp [eq_comm]
          · rw [List.getElem?_set_ne (by omega)]
            simp [same]

private theorem eq_of_slots {left right : Tuple} (width : left.length = right.length)
    (slots : ∀ (index : Nat) (datum : Datum),
      left[index]? = some (some datum) ↔ right[index]? = some (some datum)) : left = right := by
  apply List.ext_getElem width
  intro index inLeft inRight
  have same := slots index
  simp only [List.getElem?_eq_getElem inLeft, List.getElem?_eq_getElem inRight,
    Option.some.injEq] at same
  exact Option.ext same

end Tuple

/-!
## What becomes of a row
-/

namespace Relation

/-- The cell of a row at a position is not null, and its text becomes this in the column of the
ordinal at the position. -/
def Converts (relation : Relation) (zone : Zone) (retrieved : List Nat) (row : Remote.Row)
    (position : Nat) (outcome : Except Error Datum) : Prop :=
  ∃ ordinal column value, retrieved[position]? = some ordinal ∧
    relation.liveColumn ordinal = .ok column ∧ row[position]? = some (some value) ∧
    datumOfCell zone column value = outcome

/-- What becomes of a row: it has another shape, or its first cell that cannot be converted fails,
or the data of its cells stand in the slots of their ordinals and no other slot is filled. -/
inductive Materialized (relation : Relation) (zone : Zone) (retrieved : List Nat)
    (row : Remote.Row) : Except Error Tuple → Prop where
  | shape : retrieved ≠ [] → retrieved.length ≠ row.length →
      Materialized relation zone retrieved row
        (.error (.resultShape retrieved.length row.length))
  | failed {position : Nat} {failure : Error} :
      retrieved = [] ∨ retrieved.length = row.length →
      relation.Converts zone retrieved row position (.error failure) →
      (∀ earlier < position, ∀ other,
        ¬relation.Converts zone retrieved row earlier (.error other)) →
      Materialized relation zone retrieved row (.error failure)
  | filled {tuple : Tuple} :
      retrieved = [] ∨ retrieved.length = row.length →
      (∀ position failure, ¬relation.Converts zone retrieved row position (.error failure)) →
      tuple.length = relation.columns.length →
      (∀ index datum, tuple[index]? = some (some datum) ↔ ∃ position,
        retrieved[position]? = some (index + 1) ∧
        relation.Converts zone retrieved row position (.ok datum)) →
      Materialized relation zone retrieved row (.ok tuple)

variable {relation : Relation} {zone : Zone} {retrieved : List Nat} {row : Remote.Row}

theorem Converts.unique {position : Nat} {first second : Except Error Datum}
    (converts : relation.Converts zone retrieved row position first)
    (again : relation.Converts zone retrieved row position second) : first = second := by
  obtain ⟨ordinal, column, value, counted, lives, here, rfl⟩ := converts
  obtain ⟨_, _, _, countedAgain, livesAgain, hereAgain, rfl⟩ := again
  cases counted.symm.trans countedAgain
  cases lives.symm.trans livesAgain
  cases here.symm.trans hereAgain
  rfl

/-- Nothing but the row decides what becomes of it. -/
theorem Materialized.unique {first second : Except Error Tuple}
    (materialized : relation.Materialized zone retrieved row first)
    (again : relation.Materialized zone retrieved row second) : first = second := by
  cases materialized with
  | shape filled other =>
      have unsized := not_or.mpr ⟨filled, other⟩
      cases again with
      | shape => rfl
      | failed sized => exact absurd sized unsized
      | filled sized => exact absurd sized unsized
  | @failed position _ sized fails least =>
      cases again with
      | shape filled other => exact absurd sized (not_or.mpr ⟨filled, other⟩)
      | @failed otherPosition _ _ failsAgain leastAgain =>
          rcases Nat.lt_trichotomy position otherPosition with before | same | behind
          · exact absurd fails (leastAgain position before _)
          · subst same
            cases fails.unique failsAgain
            rfl
          · exact absurd failsAgain (least otherPosition behind _)
      | filled _ succeeded => exact absurd fails (succeeded position _)
  | filled sized succeeded width slots =>
      cases again with
      | shape filled other => exact absurd sized (not_or.mpr ⟨filled, other⟩)
      | failed _ fails => exact absurd fails (succeeded _ _)
      | filled _ _ widthAgain slotsAgain =>
          have same := Tuple.eq_of_slots (width.trans widthAgain.symm) fun index datum =>
            (slots index datum).trans (slotsAgain index datum).symm
          rw [same]

/-!
## Rows by their cells
-/

def readCell (relation : Relation) (zone : Zone) (cell : Nat × Option Remote.Value) :
    Except Error (Nat × Option Datum) := do
  let column ← relation.liveColumn cell.1
  (column.readCell zone cell.2).map (cell.1, ·)

private theorem placeCell_eq (tuple : Tuple) (cell : Nat × Option Remote.Value) :
    relation.placeCell zone tuple cell.1 cell.2 = (relation.readCell zone cell).map tuple.place := by
  obtain ⟨ordinal, cell⟩ := cell
  unfold placeCell readCell
  cases relation.liveColumn ordinal with
  | error failure => rfl
  | ok column =>
      cases cell with
      | none => rfl
      | some value =>
          simp only [Column.readCell, bind, Except.bind]
          cases datumOfCell zone column value <;> rfl

private theorem readCell_eq_ok {cell : Nat × Option Remote.Value} {slot : Nat × Option Datum}
    (read : relation.readCell zone cell = .ok slot) : slot.1 = cell.1 := by
  obtain ⟨column, _, placed⟩ := Attempt.bind_eq_ok_iff.mp read
  obtain ⟨_, _, rfl⟩ := Attempt.map_eq_ok_iff.mp placed
  rfl

private theorem emptyTuple_ne_some {index : Nat} {datum : Datum} :
    relation.emptyTuple[index]? ≠ some (some datum) := by
  intro found
  obtain ⟨_, _, impossible⟩ := List.mem_map.mp (List.mem_of_getElem? found)
  cases impossible

private theorem materialize_eq_place (sized : retrieved = [] ∨ retrieved.length = row.length) :
    relation.materialize zone retrieved row =
      ((retrieved.zip row).mapM (relation.readCell zone)).map fun placed =>
        placed.foldl Tuple.place relation.emptyTuple := by
  rw [materialize_of_sized sized, ← Attempt.foldlM_map]
  congr 1
  funext tuple cell
  exact placeCell_eq tuple cell

private theorem ordinals_of_mapM_readCell {cells : List (Nat × Option Remote.Value)}
    {placed : List (Nat × Option Datum)} (read : cells.mapM (relation.readCell zone) = .ok placed) :
    placed.map Prod.fst = cells.map Prod.fst := by
  have pointwise := Attempt.mapM_eq_ok_iff.mp read
  clear read
  induction pointwise with
  | nil => rfl
  | cons here _ ih => rw [List.map_cons, List.map_cons, ih, readCell_eq_ok here]

private theorem readCell_of_live {ordinal : Nat} {column : Column}
    (live : relation.liveColumn ordinal = .ok column) (cell : Option Remote.Value) :
    relation.readCell zone (ordinal, cell) = (column.readCell zone cell).map (ordinal, ·) := by
  simp only [readCell, live, bind, Except.bind]

section

variable (live : ∀ ordinal ∈ retrieved, ∃ column, relation.liveColumn ordinal = .ok column)

include live

theorem converts_error_iff {position : Nat} {failure : Error} :
    relation.Converts zone retrieved row position (.error failure) ↔
      ∃ cell, (retrieved.zip row)[position]? = some cell ∧
        relation.readCell zone cell = .error failure := by
  constructor
  · intro given
    obtain ⟨ordinal, column, value, counted, lives, here, failed⟩ := given
    refine ⟨(ordinal, some value), List.getElem?_zip_eq_some.mpr ⟨counted, here⟩, ?_⟩
    rw [readCell_of_live lives]
    exact Attempt.map_eq_error_iff.mpr (Attempt.map_eq_error_iff.mpr failed)
  · intro given
    obtain ⟨⟨ordinal, cell⟩, found, failed⟩ := given
    obtain ⟨counted, here⟩ := List.getElem?_zip_eq_some.mp found
    obtain ⟨column, lives⟩ := live ordinal (List.mem_of_getElem? counted)
    rw [readCell_of_live lives, Attempt.map_eq_error_iff] at failed
    cases cell with
    | none => cases failed
    | some value =>
        exact ⟨ordinal, column, value, counted, lives, here, Attempt.map_eq_error_iff.mp failed⟩

theorem converts_ok_iff {position ordinal : Nat} {datum : Datum} :
    retrieved[position]? = some ordinal ∧
        relation.Converts zone retrieved row position (.ok datum) ↔
      ∃ cell, (retrieved.zip row)[position]? = some cell ∧
        relation.readCell zone cell = .ok (ordinal, some datum) := by
  constructor
  · intro given
    obtain ⟨counted, found, column, value, again, lives, here, converted⟩ := given
    cases counted.symm.trans again
    refine ⟨(ordinal, some value), List.getElem?_zip_eq_some.mpr ⟨counted, here⟩, ?_⟩
    rw [readCell_of_live lives, Column.readCell, converted]
    rfl
  · intro given
    obtain ⟨⟨own, cell⟩, found, read⟩ := given
    obtain ⟨counted, here⟩ := List.getElem?_zip_eq_some.mp found
    obtain ⟨column, lives⟩ := live own (List.mem_of_getElem? counted)
    rw [readCell_of_live lives] at read
    obtain ⟨slot, converted, shape⟩ := Attempt.map_eq_ok_iff.mp read
    cases shape
    cases cell with
    | none => cases converted
    | some value =>
        obtain ⟨_, converted, same⟩ := Attempt.map_eq_ok_iff.mp converted
        cases same
        exact ⟨counted, _, column, value, counted, lives, here, converted⟩

/-- Ordinals of live columns count from one, and the tuple has an empty slot for each. -/
theorem vacant_of_live {ordinal : Nat} (member : ordinal ∈ retrieved) :
    0 < ordinal ∧ relation.emptyTuple[ordinal - 1]? = some none := by
  obtain ⟨column, lives⟩ := live ordinal member
  obtain ⟨found, _⟩ := liveColumn_eq_ok_iff.mp lives
  cases ordinal with
  | zero => cases found
  | succ index =>
      refine ⟨Nat.succ_pos index, ?_⟩
      rw [emptyTuple, List.getElem?_map]
      exact congrArg _ found

theorem slot_iff (distinct : retrieved.Nodup)
    (sized : retrieved = [] ∨ retrieved.length = row.length) {placed : List (Nat × Option Datum)}
    (read : (retrieved.zip row).mapM (relation.readCell zone) = .ok placed) (index : Nat)
    (datum : Datum) :
    (placed.foldl Tuple.place relation.emptyTuple)[index]? = some (some datum) ↔
      ∃ position, retrieved[position]? = some (index + 1) ∧
        relation.Converts zone retrieved row position (.ok datum) := by
  have ordinals : placed.map Prod.fst = retrieved :=
    (ordinals_of_mapM_readCell read).trans (map_fst_zip_of_sized sized)
  have apart : (placed.map Prod.fst).Nodup := ordinals ▸ distinct
  have vacant : ∀ ordinal ∈ placed.map Prod.fst,
      0 < ordinal ∧ relation.emptyTuple[ordinal - 1]? = some none := by
    intro ordinal member
    exact vacant_of_live live (ordinals ▸ member)
  simp only [converts_ok_iff live]
  rw [Tuple.getElem?_foldl_place apart vacant]
  constructor
  · intro filled
    cases filled with
    | inl before => exact absurd before emptyTuple_ne_some
    | inr member =>
        obtain ⟨cell, inside, converted⟩ := Attempt.exists_item_of_mapM_eq_ok read member
        obtain ⟨position, found⟩ := List.mem_iff_getElem?.mp inside
        exact ⟨position, cell, found, converted⟩
  · intro ⟨position, cell, found, converted⟩
    exact .inr (Attempt.mem_of_mapM_eq_ok read (List.mem_of_getElem? found) converted)

theorem materialized (distinct : retrieved.Nodup) :
    relation.Materialized zone retrieved row (relation.materialize zone retrieved row) := by
  by_cases sized : retrieved = [] ∨ retrieved.length = row.length
  · rw [materialize_eq_place sized]
    cases read : (retrieved.zip row).mapM (relation.readCell zone) with
    | error failure =>
        obtain ⟨position, cell, found, failed, succeeded⟩ :=
          Attempt.mapM_eq_error_iff_getElem?.mp read
        refine .failed sized ((converts_error_iff live).mpr ⟨cell, found, failed⟩) ?_
        intro earlier before other fails
        obtain ⟨cell, here, failed⟩ := (converts_error_iff live).mp fails
        obtain ⟨_, success⟩ := succeeded earlier before cell here
        cases failed.symm.trans success
    | ok placed =>
        refine .filled sized ?_ ?_ (slot_iff live distinct sized read)
        · intro position failure fails
          obtain ⟨cell, here, failed⟩ := (converts_error_iff live).mp fails
          obtain ⟨_, success⟩ := Attempt.exists_of_mapM_eq_ok read (List.mem_of_getElem? here)
          cases failed.symm.trans success
        · exact (Tuple.length_foldl_place _ _).trans (List.length_map _)
  · obtain ⟨filled, other⟩ := not_or.mp sized
    rw [materialize_of_other_shape filled other]
    exact .shape filled other

end

end Relation

/-- A materializer gives every row the result that the row has on its own, whatever its buffer holds
and whichever rows failed before. -/
theorem Materializer.materializeRows_exact (materializer : Materializer) {relation : Relation}
    {retrieved : List Nat} (distinct : retrieved.Nodup)
    (live : ∀ ordinal ∈ retrieved, ∃ column, relation.liveColumn ordinal = .ok column)
    (rows : List Remote.Row) :
    (materializer.materializeRows relation retrieved rows).1 =
        rows.map (relation.materialize materializer.zone retrieved) ∧
      ∀ row result, relation.materialize materializer.zone retrieved row = result ↔
        relation.Materialized materializer.zone retrieved row result := by
  refine ⟨materializer.materializeRows_fst relation retrieved rows, ?_⟩
  intro row result
  have materialized : relation.Materialized materializer.zone retrieved row _ :=
    Relation.materialized live distinct
  constructor
  · intro same
    exact same ▸ materialized
  · intro told
    exact materialized.unique told

def codes : Relation where
  schema := "public"
  name := "codes"
  columns := [{ ordinal := 1, name := "id", columnType := .integer },
    { ordinal := 2, name := "note", columnType := .text, dropped := true },
    { ordinal := 3, name := "code", columnType := .bpchar (some 4) }]
  dense := ⟨rfl, rfl, rfl, trivial⟩

/-- A code, a code alone, a code that is too long, and a null. -/
def codeRows : List Remote.Row :=
  [[some (.text "ab"), some (.int ⟨12, by decide, by decide⟩)], [some (.text "ab")],
    [some (.varchar "abcdef"), some (.text "seven")], [none, some (.text " 13")]]

theorem Materializer.materializeRows_exact_codes :
    [3, 1].Nodup ∧ (∀ ordinal ∈ [3, 1], ∃ column, codes.liveColumn ordinal = .ok column) ∧
      codeRows.map (codes.materialize Zone.utc [3, 1]) =
        [.ok [some (.integer ⟨12, by decide, by decide⟩), none, some (.text "ab  ")],
          .error (.resultShape 2 1),
          .error (.invalidArgument (.tooLong (.bpchar (some 4)))),
          .ok [some (.integer ⟨13, by decide, by decide⟩), none, none]] ∧
      ((⟨Zone.utc, "left over"⟩ : Materializer).materializeRows codes [3, 1] codeRows).1 =
        codeRows.map (codes.materialize Zone.utc [3, 1]) ∧
      ∀ row result, codes.materialize Zone.utc [3, 1] row = result ↔
        codes.Materialized Zone.utc [3, 1] row result := by
  have distinct : [3, 1].Nodup := by decide
  have live : ∀ ordinal ∈ [3, 1], ∃ column, codes.liveColumn ordinal = .ok column := by
    simp [codes, Relation.liveColumn, Relation.column?]
  exact ⟨distinct, live, by decide, Materializer.materializeRows_exact _ distinct live codeRows⟩

end ForeignTable
