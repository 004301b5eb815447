import ForeignTable.Proofs.Import.Declaration

/-! Imports of whole keyspaces. Every admitted table gives its own declaration or its own
warning, whatever stands beside it, so an import without a filter splits along any list of
names. -/

set_option autoImplicit false

namespace ForeignTable

/-- The third list is an order-preserving merge of the first two. -/
inductive Interleaves {Item : Type} : List Item → List Item → List Item → Prop where
  | nil : Interleaves [] [] []
  | left {item : Item} {left right whole : List Item} :
      Interleaves left right whole → Interleaves (item :: left) right (item :: whole)
  | right {item : Item} {left right whole : List Item} :
      Interleaves left right whole → Interleaves left (item :: right) (item :: whole)

namespace Interleaves

variable {Item : Type} {left right whole : List Item}

private theorem prependLeft (front : List Item) (parts : Interleaves left right whole) :
    Interleaves (front ++ left) right (front ++ whole) := by
  induction front with
  | nil => exact parts
  | cons item rest ih => exact .left ih

private theorem prependRight (front : List Item) (parts : Interleaves left right whole) :
    Interleaves left (front ++ right) (front ++ whole) := by
  induction front with
  | nil => exact parts
  | cons item rest ih => exact .right ih

private theorem of_filter (holds : Item → Bool) (items : List Item) :
    Interleaves (items.filter holds) (items.filter fun item => !holds item) items := by
  induction items with
  | nil => exact .nil
  | cons item rest ih =>
      cases taken : holds item with
      | true =>
          rw [List.filter_cons_of_pos taken, List.filter_cons_of_neg (by simp [taken])]
          exact .left ih
      | false =>
          rw [List.filter_cons_of_neg (by simp [taken]), List.filter_cons_of_pos (by simp [taken])]
          exact .right ih

end Interleaves

namespace Import

open Remote (ColumnInfo TableInfo)

/-!
## One table
-/

def supported (table : TableInfo) : Bool :=
  table.columns.all fun column => column.kind.columnType?.isSome

/-- The column is the first one of the table without a column type. -/
def FirstUnsupported (table : TableInfo) (column : ColumnInfo) : Prop :=
  ∃ earlier later, table.columns = earlier ++ column :: later ∧
    (∀ other ∈ earlier, other.kind.columnType?.isSome = true) ∧ column.kind.columnType? = none

/-- The warning names the table, its first column without a column type, and the type of that
column. -/
def Explains (keyspace : String) (table : TableInfo) (warning : Warning) : Prop :=
  ∃ column, FirstUnsupported table column ∧
    warning = .skippedTable keyspace table.name column.name (.unsupported column.kind.name)

private theorem exists_declaration {table : TableInfo} (full : supported table = true)
    (keyspace server : String) : ∃ text, declaration keyspace server table = .ok text := by
  have each : ∀ column ∈ table.columns, ∃ typed, typedColumn column = .ok typed := by
    intro column member
    exact exists_typedColumn_iff.mpr (List.all_eq_true.mp full column member)
  obtain ⟨columns, typed⟩ := Attempt.exists_mapM_eq_ok_iff.mpr each
  rw [declaration_eq, typed]
  exact ⟨_, rfl⟩

private theorem exists_firstUnsupported {table : TableInfo} (lacking : supported table = false) :
    ∃ column, FirstUnsupported table column := by
  cases found : table.columns.find? fun column => column.kind.columnType?.isNone with
  | none =>
      have full : supported table = true := by
        simpa [supported, Option.isSome_iff_ne_none] using found
      rw [lacking] at full
      cases full
  | some column =>
      obtain ⟨absent, earlier, later, shape, before⟩ := List.find?_eq_some_iff_append.mp found
      refine ⟨column, earlier, later, shape, ?_, Option.isNone_iff_eq_none.mp absent⟩
      simpa [Option.isSome_iff_ne_none] using before

theorem FirstUnsupported.mem {table : TableInfo} {column : ColumnInfo}
    (first : FirstUnsupported table column) : column ∈ table.columns := by
  obtain ⟨earlier, later, shape, _⟩ := first
  rw [shape]
  exact List.mem_append_right earlier List.mem_cons_self

theorem FirstUnsupported.columnType?_eq_none {table : TableInfo} {column : ColumnInfo}
    (first : FirstUnsupported table column) : column.kind.columnType? = none := by
  obtain ⟨_, _, _, _, absent⟩ := first
  exact absent

/-- The search for the column that a warning names stops where the declaration fails. -/
theorem FirstUnsupported.unsupportedColumn_eq {table : TableInfo} {column : ColumnInfo}
    (first : FirstUnsupported table column) : unsupportedColumn table = column.name := by
  obtain ⟨earlier, later, shape, before, absent⟩ := first
  have found : (table.columns.find? fun column => column.kind.columnType?.isNone) =
      some column := by
    apply List.find?_eq_some_iff_append.mpr
    refine ⟨Option.isNone_iff_eq_none.mpr absent, earlier, later, shape, ?_⟩
    simpa [Option.isSome_iff_ne_none] using before
  rw [unsupportedColumn, found]
  rfl

theorem FirstUnsupported.declaration_eq {table : TableInfo} {column : ColumnInfo}
    (first : FirstUnsupported table column) (keyspace server : String) :
    declaration keyspace server table = .error (.unsupported column.kind.name) := by
  obtain ⟨earlier, later, shape, before, absent⟩ := first
  have failed : table.columns.mapM typedColumn = .error (.unsupported column.kind.name) := by
    apply Attempt.mapM_eq_error_iff.mpr
    refine ⟨earlier, column, later, shape, ?_, typedColumn_eq_error_iff.mpr ⟨absent, rfl⟩⟩
    intro other member
    exact exists_typedColumn_iff.mpr (before other member)
  rw [Import.declaration_eq, failed]
  rfl

/-- What one table gives to an import: its declaration, or a warning about it. -/
inductive Gives (keyspace server : String) (table : TableInfo) :
    List String → List Warning → Prop where
  | declaration {text : String} (full : supported table = true)
      (written : declaration keyspace server table = .ok text) :
      Gives keyspace server table [text] []
  | warning {warning : Warning} (lacking : supported table = false)
      (explains : Explains keyspace table warning) : Gives keyspace server table [] [warning]

/-- A table stands in front of the others without looking at them. -/
theorem addTable_gives (keyspace server : String) (table : TableInfo) :
    ∃ texts warnings, Gives keyspace server table texts warnings ∧
      ∀ others, Outcome.addTable keyspace server table others =
        ⟨texts ++ others.declarations, warnings ++ others.warnings⟩ := by
  cases known : supported table with
  | true =>
      obtain ⟨text, written⟩ := exists_declaration known keyspace server
      refine ⟨[text], [], .declaration known written, ?_⟩
      intro others
      rw [Outcome.addTable, written]
      rfl
  | false =>
      obtain ⟨column, first⟩ := exists_firstUnsupported known
      refine ⟨[], [_], .warning known ⟨column, first, rfl⟩, ?_⟩
      intro others
      rw [Outcome.addTable, first.declaration_eq, first.unsupportedColumn_eq]
      rfl

/-!
## All tables
-/

/-- The tables of a keyspace that a filter lets through, in metadata order. -/
def handled (keyspace : Remote.Keyspace) (filter : Filter) : List TableInfo :=
  keyspace.tables.filter fun table => filter.admits table.name

/-- One declaration for every supported table and one warning for every other one, both in the
order of the tables. -/
structure Outcome.Covers (outcome : Outcome) (keyspace server : String)
    (tables : List TableInfo) : Prop where
  declared : List.Forall₂ (fun table text => declaration keyspace server table = .ok text)
    (tables.filter supported) outcome.declarations
  explained : List.Forall₂ (Explains keyspace)
    (tables.filter fun table => !supported table) outcome.warnings

/-- Declarations and warnings of the third outcome merge those of the first two. -/
structure Outcome.Merges (left right whole : Outcome) : Prop where
  declarations : Interleaves left.declarations right.declarations whole.declarations
  warnings : Interleaves left.warnings right.warnings whole.warnings

theorem covers_tables (keyspace server : String) (tables : List TableInfo) :
    (tables.foldr (Outcome.addTable keyspace server) {}).Covers keyspace server tables := by
  induction tables with
  | nil => exact ⟨.nil, .nil⟩
  | cons table rest ih =>
      obtain ⟨_, _, gives, added⟩ := addTable_gives keyspace server table
      rw [List.foldr_cons, added]
      cases gives with
      | declaration full written =>
          constructor
          · rw [List.filter_cons_of_pos full]
            exact .cons written ih.declared
          · rw [List.filter_cons_of_neg (by simp [full])]
            exact ih.explained
      | warning lacking explains =>
          constructor
          · rw [List.filter_cons_of_neg (by simp [lacking])]
            exact ih.declared
          · rw [List.filter_cons_of_pos (by simp [lacking])]
            exact .cons explains ih.explained

private theorem merges_of_interleaves {left right whole : List TableInfo}
    (parts : Interleaves left right whole) (keyspace server : String) :
    (left.foldr (Outcome.addTable keyspace server) {}).Merges
      (right.foldr (Outcome.addTable keyspace server) {})
      (whole.foldr (Outcome.addTable keyspace server) {}) := by
  induction parts with
  | nil => exact ⟨.nil, .nil⟩
  | @left table _ _ _ _ ih =>
      obtain ⟨texts, warnings, _, added⟩ := addTable_gives keyspace server table
      simp only [List.foldr_cons, added]
      exact ⟨ih.declarations.prependLeft texts, ih.warnings.prependLeft warnings⟩
  | @right table _ _ _ _ ih =>
      obtain ⟨texts, warnings, _, added⟩ := addTable_gives keyspace server table
      simp only [List.foldr_cons, added]
      exact ⟨ih.declarations.prependRight texts, ih.warnings.prependRight warnings⟩

/-!
## Filters
-/

theorem ofKeyspace_eq (keyspace : Remote.Keyspace) (request : Request) :
    ofKeyspace keyspace request = (handled keyspace request.filter).foldr
      (Outcome.addTable keyspace.name request.server) {} := rfl

private theorem handled_everything (keyspace : Remote.Keyspace) :
    handled keyspace .everything = keyspace.tables :=
  List.filter_eq_self.mpr fun _ _ => rfl

private theorem handled_interleaves (keyspace : Remote.Keyspace) (names : List String) :
    Interleaves (handled keyspace (.limitTo names)) (handled keyspace (.except names))
      keyspace.tables :=
  Interleaves.of_filter (fun table : TableInfo => names.contains table.name) keyspace.tables

private theorem not_mem_handled_except {keyspace : Remote.Keyspace} {names : List String}
    {table : TableInfo} (limited : table ∈ handled keyspace (.limitTo names)) :
    table ∉ handled keyspace (.except names) := by
  intro excepted
  have listed : names.contains table.name = true := (List.mem_filter.mp limited).2
  have unlisted : (!names.contains table.name) = true := (List.mem_filter.mp excepted).2
  rw [listed] at unlisted
  cases unlisted

private theorem contains_congr {names others : List String}
    (same : ∀ name, name ∈ others ↔ name ∈ names) (name : String) :
    others.contains name = names.contains name := by
  rw [Bool.eq_iff_iff, List.contains_iff_mem, List.contains_iff_mem]
  exact same name

private theorem handled_congr {names others : List String}
    (same : ∀ name, name ∈ others ↔ name ∈ names) (keyspace : Remote.Keyspace) :
    handled keyspace (.limitTo others) = handled keyspace (.limitTo names) ∧
      handled keyspace (.except others) = handled keyspace (.except names) := by
  simp only [handled, Filter.admits, contains_congr same, and_self]

/-- An import declares every admitted table whose columns all have column types, in metadata order,
and warns once about every other admitted table. A list of names, in any order and with any
repetitions, splits the tables in two, and the import of all of them merges the two imports. -/
theorem tables_imported_independently (keyspace : Remote.Keyspace) (request : Request) :
    (ofKeyspace keyspace request).Covers keyspace.name request.server
        (handled keyspace request.filter) ∧
      handled keyspace .everything = keyspace.tables ∧
      ∀ names : List String,
        (∀ table ∈ handled keyspace (.limitTo names), table ∉ handled keyspace (.except names)) ∧
        Interleaves (handled keyspace (.limitTo names)) (handled keyspace (.except names))
          (handled keyspace .everything) ∧
        (ofKeyspace keyspace { request with filter := .limitTo names }).Merges
          (ofKeyspace keyspace { request with filter := .except names })
          (ofKeyspace keyspace { request with filter := .everything }) ∧
        ∀ others : List String, (∀ name, name ∈ others ↔ name ∈ names) →
          ofKeyspace keyspace { request with filter := .limitTo others } =
              ofKeyspace keyspace { request with filter := .limitTo names } ∧
            ofKeyspace keyspace { request with filter := .except others } =
              ofKeyspace keyspace { request with filter := .except names } := by
  refine ⟨covers_tables _ _ _, handled_everything keyspace, ?_⟩
  intro names
  have split := handled_interleaves keyspace names
  rw [← handled_everything keyspace] at split
  refine ⟨fun table => not_mem_handled_except, split, merges_of_interleaves split _ _, ?_⟩
  intro others same
  obtain ⟨limited, excepted⟩ := handled_congr same keyspace
  constructor
  · rw [ofKeyspace_eq, ofKeyspace_eq, limited]
  · rw [ofKeyspace_eq, ofKeyspace_eq, excepted]

/-- A keyspace that has two tables of one name, and a table with two columns that no column type
fits. -/
def gardens : Remote.Keyspace where
  name := "gardens"
  tables := [⟨"beds", [⟨"id", .uuid⟩]⟩, ⟨"beds", [⟨"id", .int⟩, ⟨"soil", .blob⟩, ⟨"ph", .decimal⟩]⟩,
    ⟨"tools", [⟨"name", .text⟩]⟩]

theorem tables_imported_independently_gardens :
    let request : Request := { keyspace := "gardens", server := "far" }
    (ofKeyspace gardens request).Covers "gardens" "far" (handled gardens .everything) ∧
      (handled gardens .everything).filter supported =
        [⟨"beds", [⟨"id", .uuid⟩]⟩, ⟨"tools", [⟨"name", .text⟩]⟩] ∧
      (ofKeyspace gardens request).warnings =
        [.skippedTable "gardens" "beds" "soil" (.unsupported "blob")] ∧
      (handled gardens (.except ["beds", "roses"])) = [⟨"tools", [⟨"name", .text⟩]⟩] ∧
      (∀ name, name ∈ ["beds", "roses", "beds"] ↔ name ∈ ["roses", "beds"]) ∧
      ofKeyspace gardens { request with filter := .limitTo ["beds", "roses", "beds"] } =
        ofKeyspace gardens { request with filter := .limitTo ["roses", "beds"] } := by
  intro request
  obtain ⟨covers, _, splits⟩ := tables_imported_independently gardens request
  obtain ⟨_, _, _, unordered⟩ := splits ["roses", "beds"]
  have same : ∀ name, name ∈ ["beds", "roses", "beds"] ↔ name ∈ ["roses", "beds"] := by
    intro name
    simp only [List.mem_cons, List.not_mem_nil, or_false]
    grind
  exact ⟨covers, rfl, rfl, rfl, same, (unordered _ same).1⟩

end Import

end ForeignTable
