import Mathlib.Data.List.Basic
import ForeignTable.ColumnType
import ForeignTable.Proofs.Sql.Quoted
import ForeignTable.Proofs.Text.Numeral
import ForeignTable.Sql.Statement

/-! A reader of foreign table declarations. It finds the columns by the commas that are neither
quoted nor in parentheses, so names and types may have commas and parentheses of their own. -/

set_option autoImplicit false

namespace ForeignTable

/-- True for the characters that neither quote nor structure a list. -/
def isPlain (c : Char) : Bool := c != '"' && c != '(' && c != ')' && c != ','

private theorem isPlain_of_isDigit {c : Char} (digit : c.isDigit = true) : isPlain c = true := by
  have apart : ∀ mark : Char, mark.isDigit = false → (c != mark) = true := by
    intro mark other
    refine bne_iff_ne.mpr ?_
    intro same
    rw [same, other] at digit
    cases digit
  simp only [isPlain, apart '"' rfl, apart '(' rfl, apart ')' rfl, apart ',' rfl, Bool.and_self]

/-!
## Types
-/

namespace ColumnType

def unmodifiedTypes : List (String × ColumnType) :=
  [("smallint", smallint), ("integer", integer), ("bigint", bigint), ("real", real),
    ("double precision", doublePrecision), ("boolean", boolean), ("text", text),
    ("character varying", varchar none), ("character", bpchar none),
    ("timestamp without time zone", timestamp none),
    ("timestamp with time zone", timestamptz none), ("uuid", uuid), ("inet", inet),
    ("numeric", numeric), ("date", date), ("bytea", bytea), ("json", json)]

def modifiedTypes : List (String × (Nat → ColumnType)) :=
  [("character varying", fun limit => varchar (some limit)),
    ("character", fun limit => bpchar (some limit)),
    ("timestamp without time zone", fun precision => timestamp (some precision)),
    ("timestamp with time zone", fun precision => timestamptz (some precision))]

/-- The type that a text is read as. A modifier in parentheses may stand between the words. -/
def ofSpelling? (text : List Char) : Option ColumnType :=
  match Text.splitOnce '(' text with
  | none => unmodifiedTypes.lookup (String.ofList text)
  | some (front, rest) => do
      let (inner, back) ← Text.splitOnce ')' rest
      let modifier ← Text.natural? inner
      let modified ← modifiedTypes.lookup (String.ofList (front ++ back))
      return modified modifier

/-- Plain words, or plain words around a modifier, that name a type. -/
inductive Spells : List Char → ColumnType → Prop
  | words {words : List Char} {columnType : ColumnType}
      (plain : words.all isPlain = true)
      (known : unmodifiedTypes.lookup (String.ofList words) = some columnType) :
      Spells words columnType
  | modified {front back : List Char} {modified : Nat → ColumnType}
      (plainFront : front.all isPlain = true) (plainBack : back.all isPlain = true)
      (known : modifiedTypes.lookup (String.ofList (front ++ back)) = some modified)
      (modifier : Nat) :
      Spells (front ++ '(' :: (Text.digits modifier ++ ')' :: back)) (modified modifier)

private theorem spells_modified (opening closing : String) (front back : List Char)
    (modified : Nat → ColumnType) (opens : opening.toList = front ++ ['('])
    (closes : closing.toList = ')' :: back) (plainFront : front.all isPlain = true)
    (plainBack : back.all isPlain = true)
    (known : modifiedTypes.lookup (String.ofList (front ++ back)) = some modified)
    (modifier : Nat) :
    Spells (opening ++ toString modifier ++ closing).toList (modified modifier) := by
  have shape : (opening ++ toString modifier ++ closing).toList =
      front ++ '(' :: (Text.digits modifier ++ ')' :: back) := by
    have number : (toString modifier).toList = Text.digits modifier := Nat.toList_repr
    rw [String.toList_append, String.toList_append, opens, closes, number, List.append_assoc,
      List.append_assoc]
    rfl
  rw [shape]
  exact .modified plainFront plainBack known modifier

private theorem spells_spelling (columnType : ColumnType) :
    Spells columnType.spelling.toList columnType := by
  cases columnType with
  | varchar limit =>
      cases limit with
      | none => exact .words (by decide) (by decide)
      | some limit =>
          exact spells_modified "character varying(" ")" "character varying".toList []
            (fun limit => varchar (some limit)) (by decide) (by decide) (by decide) (by decide)
            (by simp [modifiedTypes]) limit
  | bpchar limit =>
      cases limit with
      | none => exact .words (by decide) (by decide)
      | some limit =>
          exact spells_modified "character(" ")" "character".toList []
            (fun limit => bpchar (some limit)) (by decide) (by decide) (by decide) (by decide)
            (by simp [modifiedTypes, List.lookup_cons]) limit
  | timestamp precision =>
      cases precision with
      | none => exact .words (by decide) (by decide)
      | some precision =>
          exact spells_modified "timestamp(" ") without time zone" "timestamp".toList
            " without time zone".toList (fun precision => timestamp (some precision)) (by decide)
            (by decide) (by decide) (by decide) (by simp [modifiedTypes, List.lookup_cons]) precision
  | timestamptz precision =>
      cases precision with
      | none => exact .words (by decide) (by decide)
      | some precision =>
          exact spells_modified "timestamp(" ") with time zone" "timestamp".toList
            " with time zone".toList (fun precision => timestamptz (some precision)) (by decide)
            (by decide) (by decide) (by decide) (by simp [modifiedTypes, List.lookup_cons]) precision
  | _ => exact .words (by decide) (by decide)

private theorem not_mem_of_plain {text : List Char} {c : Char} (plain : text.all isPlain = true)
    (structural : isPlain c = false) : c ∉ text := by
  intro member
  have known := List.all_eq_true.mp plain c member
  rw [structural] at known
  cases known

private theorem ofSpelling?_of_spells {text : List Char} {columnType : ColumnType}
    (spells : Spells text columnType) : ofSpelling? text = some columnType := by
  unfold ofSpelling?
  cases spells with
  | words plain known =>
      rw [Text.splitOnce_eq_none_iff.mpr (not_mem_of_plain plain rfl)]
      exact known
  | @modified front back modified plainFront plainBack known modifier =>
      have closed : ')' ∉ Text.digits modifier :=
        Text.not_mem_of_allDigits (Text.allDigits_digits modifier) rfl
      rw [Text.splitOnce_append (not_mem_of_plain plainFront rfl)]
      dsimp only
      rw [Text.splitOnce_append closed]
      simp only [Text.natural?_digits, known, Option.bind_eq_bind, Option.bind_some]
      rfl

end ColumnType

/-!
## Lists in parentheses
-/

def withFront (text : List Char) :
    List (List Char) × List Char → List (List Char) × List Char :=
  fun (items, behind) => (items.modifyHead (text ++ ·), behind)

def nesting (depth : Nat) (c : Char) : Nat :=
  if c = '(' then depth + 1 else if c = ')' then depth - 1 else depth

/-- The items up to the parenthesis that closes their list, and what stands behind it. Commas
and parentheses inside quotes or inside further parentheses belong to an item. A doubled quote
ends the quotes and opens them again. -/
def items? : Bool → Nat → List Char → Option (List (List Char) × List Char)
  | _, _, [] => none
  | true, depth, c :: rest => (items? (c != '"') depth rest).map (withFront [c])
  | false, depth, c :: rest =>
      if c = ',' ∧ depth = 0 then
        (items? false 0 rest).map fun (items, behind) => ([] :: items, behind)
      else if c = ')' ∧ depth = 0 then some ([[]], rest)
      else (items? (c == '"') (nesting depth c) rest).map (withFront [c])

/-- The text stays in one piece where so many parentheses are open. -/
def Whole (depth : Nat) (text : List Char) : Prop :=
  ∀ rest, items? false depth (text ++ rest) = (items? false depth rest).map (withFront text)

variable {depth : Nat} {first second text : List Char} {c : Char}

private theorem withFront_withFront (read : Option (List (List Char) × List Char)) :
    (read.map (withFront second)).map (withFront first) =
      read.map (withFront (first ++ second)) := by
  rw [Option.map_map]
  congr 1
  funext (items, behind)
  simp [withFront, Function.comp_def]

theorem Whole.append (left : Whole depth first) (right : Whole depth second) :
    Whole depth (first ++ second) := by
  intro rest
  rw [List.append_assoc, left, right, withFront_withFront]

private theorem items?_inside (separator : ¬(c = ',' ∧ depth = 0))
    (closing : ¬(c = ')' ∧ depth = 0)) (rest : List Char) :
    items? false depth (c :: rest) =
      (items? (c == '"') (nesting depth c) rest).map (withFront [c]) := by
  rw [items?, if_neg separator, if_neg closing]

private theorem items?_other (comma : c ≠ ',') (closing : c ≠ ')') (rest : List Char) :
    items? false depth (c :: rest) =
      (items? (c == '"') (nesting depth c) rest).map (withFront [c]) :=
  items?_inside (fun both => comma both.1) (fun both => closing both.1) rest

private theorem whole_nil : Whole depth [] := by
  intro rest
  have same : withFront [] = id := by
    funext (items, behind)
    cases items <;> rfl
  rw [same, Option.map_id]
  rfl

private theorem whole_of_plain (plain : text.all isPlain = true) : Whole depth text := by
  induction text with
  | nil => exact whole_nil
  | cons c text ih =>
      obtain ⟨here, later⟩ := Bool.and_eq_true_iff.mp plain
      have single : Whole depth [c] := by
        intro rest
        simp only [isPlain, Bool.and_eq_true, bne_iff_ne] at here
        obtain ⟨⟨⟨quote, opening⟩, closing⟩, comma⟩ := here
        rw [List.singleton_append, items?_other comma closing, beq_false_of_ne quote, nesting,
          if_neg opening, if_neg closing]
      exact single.append (ih later)

private theorem items?_quote (rest : List Char) :
    items? false depth ('"' :: rest) = (items? true depth rest).map (withFront ['"']) :=
  items?_other (by decide) (by decide) rest

/-- Inside quotes nothing parts a text, and its own quotes are doubled. -/
theorem items?_doubled (name rest : List Char) :
    items? true depth (Sql.doubled '"' name ++ '"' :: rest) =
      (items? false depth rest).map (withFront (Sql.doubled '"' name ++ ['"'])) := by
  induction name with
  | nil => rfl
  | cons c name ih =>
      unfold Sql.doubled
      split
      · -- the quotes end and open again at once
        have ended : items? true depth ('"' :: '"' :: (Sql.doubled '"' name ++ '"' :: rest)) =
            (items? false depth ('"' :: (Sql.doubled '"' name ++ '"' :: rest))).map
              (withFront ['"']) := rfl
        rw [List.cons_append, List.cons_append, ended, items?_quote, ih, withFront_withFront,
          withFront_withFront]
        rfl
      · rename_i other
        have stays : (c != '"') = true := bne_iff_ne.mpr other
        rw [List.cons_append, items?, stays, ih, withFront_withFront]
        rfl

private theorem whole_enclosed (name : List Char) : Whole depth (Sql.enclosed '"' name) := by
  intro rest
  unfold Sql.enclosed
  rw [List.cons_append, List.append_assoc, items?_quote, List.singleton_append, items?_doubled,
    withFront_withFront]
  rfl

private theorem whole_parenthesized (inner : Whole (depth + 1) text) :
    Whole depth ('(' :: (text ++ [')'])) := by
  intro rest
  have opened : items? false depth ('(' :: (text ++ ')' :: rest)) =
      (items? false (depth + 1) (text ++ ')' :: rest)).map (withFront ['(']) :=
    items?_other (by decide) (by decide) _
  have closed : items? false (depth + 1) (')' :: rest) =
      (items? false depth rest).map (withFront [')']) :=
    items?_inside (fun both => absurd both.1 (by decide)) (fun both => absurd both.2 (by omega))
      rest
  rw [List.cons_append, List.append_assoc, List.singleton_append, opened, inner, closed,
    withFront_withFront, withFront_withFront]
  rfl

private theorem whole_of_spells {columnType : ColumnType}
    (spells : ColumnType.Spells text columnType) :
    Whole depth text := by
  cases spells with
  | words plain _ => exact whole_of_plain plain
  | @modified front back _ plainFront plainBack _ modifier =>
      have number : (Text.digits modifier).all isPlain = true := by
        refine List.all_eq_true.mpr fun c member => ?_
        exact isPlain_of_isDigit (List.all_eq_true.mp (Text.allDigits_digits modifier) c member)
      have inner : Whole depth ('(' :: (Text.digits modifier ++ [')'])) :=
        whole_parenthesized (whole_of_plain number)
      have whole := ((whole_of_plain plainFront).append inner).append (whole_of_plain plainBack)
      simpa using whole

/-!
## Columns
-/

/-- The items of a list with commas and blanks between them: all but the first keep their
blank. -/
def spacedItems : List (List Char) → List (List Char)
  | [] => [[]]
  | first :: others => first :: others.map (' ' :: ·)

private theorem items?_commaSeparated {parts : List (List Char)}
    (whole : ∀ part ∈ parts, Whole 0 part) (rest : List Char) :
    items? false 0 (Sql.commaSeparated parts ++ ')' :: rest) = some (spacedItems parts, rest) := by
  induction parts with
  | nil => rfl
  | cons part others ih =>
      obtain ⟨here, later⟩ := List.forall_mem_cons.mp whole
      cases others with
      | nil =>
          have closed : items? false 0 (')' :: rest) = some ([[]], rest) := rfl
          rw [Sql.commaSeparated, here, closed]
          simp [withFront, spacedItems]
      | cons next others =>
          have blank : Whole 0 [' '] := whole_of_plain (by decide)
          have parted : ∀ text, items? false 0 (',' :: ' ' :: text) =
              ((items? false 0 text).map (withFront [' '])).map
                fun (items, behind) => ([] :: items, behind) := by
            intro text
            rw [← blank text]
            rfl
          have shape : Sql.commaSeparated (part :: next :: others) =
              part ++ ',' :: ' ' :: Sql.commaSeparated (next :: others) := rfl
          rw [shape, List.append_assoc, List.cons_append, List.cons_append, here, parted, ih later]
          simp [withFront, spacedItems]

abbrev TypedColumn := String × ColumnType

def column? (item : List Char) : Option TypedColumn :=
  match Sql.quoted? '"' (Text.trimStart item) with
  | some (name, ' ' :: typeText) =>
      (ColumnType.ofSpelling? typeText).map fun columnType => (String.ofList name, columnType)
  | _ => none

/-- The columns of a list without the parenthesis in front, and what stands behind the list. -/
def columns? (text : List Char) : Option (List TypedColumn × List Char) := do
  let (items, rest) ← items? false 0 text
  let columns ← if items = [[]] then some [] else items.mapM column?
  return (columns, rest)

def columnText (column : TypedColumn) : List Char :=
  Sql.quotedIdentifier column.1 ++ ' ' :: column.2.spelling.toList

private theorem whole_columnText (column : TypedColumn) : Whole 0 (columnText column) := by
  have name : Whole 0 (Sql.quotedIdentifier column.1) := whole_enclosed column.1.toList
  have blank : Whole 0 [' '] := whole_of_plain (by decide)
  have spelled : Whole 0 column.2.spelling.toList :=
    whole_of_spells (ColumnType.spells_spelling column.2)
  exact name.append (blank.append spelled)

private theorem column?_columnText (column : TypedColumn) :
    column? (columnText column) = some column := by
  have started : Text.trimStart (columnText column) = columnText column := rfl
  have named : Sql.quoted? '"' (columnText column) =
      some (column.1.toList, ' ' :: column.2.spelling.toList) :=
    Sql.quoted?_eq_some_iff.mpr ⟨rfl, nofun⟩
  simp only [column?, started, named,
    ColumnType.ofSpelling?_of_spells (ColumnType.spells_spelling column.2),
    String.ofList_toList, Option.map_some]

private theorem columns?_commaSeparated (columns : List TypedColumn) (rest : List Char) :
    columns? (Sql.commaSeparated (columns.map columnText) ++ ')' :: rest) =
      some (columns, rest) := by
  have whole : ∀ part ∈ columns.map columnText, Whole 0 part := by
    intro part member
    obtain ⟨column, _, shape⟩ := List.mem_map.mp member
    exact shape ▸ whole_columnText column
  unfold columns?
  rw [items?_commaSeparated whole, Option.bind_eq_bind, Option.bind_some]
  dsimp only
  -- a list without columns has one item, which is empty
  cases columns with
  | nil => rfl
  | cons first others =>
      have filled : spacedItems ((first :: others).map columnText) ≠ [[]] := by
        intro same
        cases (List.cons.inj same).1
      have blank : ∀ column, column? (' ' :: columnText column) = some column :=
        fun column => column?_columnText column
      have read : (others.map fun column => ' ' :: columnText column).mapM column? = some others :=
        Text.mapM_map_of_reads blank others
      rw [if_neg filled]
      simp only [List.map_cons, spacedItems, List.mapM_cons, column?_columnText, List.map_map,
        Function.comp_def, read, Option.bind_eq_bind, Option.bind_some]
      rfl

/-!
## Declarations
-/

structure Declared where
  table : String
  columns : List TypedColumn
  server : String
  schemaName : String
  tableName : String
deriving DecidableEq

namespace Declared

/-- The declaration that a text is read as, from its first character to its last. -/
def ofText? (text : String) : Option Declared := do
  let rest ← text.toList.dropPrefix? "CREATE FOREIGN TABLE ".toList
  let (table, rest) ← Sql.quoted? '"' rest
  let rest ← rest.dropPrefix? " (".toList
  let (columns, rest) ← columns? rest
  let rest ← rest.dropPrefix? " SERVER ".toList
  let (server, rest) ← Sql.quoted? '"' rest
  let rest ← rest.dropPrefix? " OPTIONS (schema_name ".toList
  let (schemaName, rest) ← Sql.quoted? '\'' rest
  let rest ← rest.dropPrefix? ", table_name ".toList
  let (tableName, rest) ← Sql.quoted? '\'' rest
  if rest = [')'] then
    return {
      table := String.ofList table, columns, server := String.ofList server
      schemaName := String.ofList schemaName, tableName := String.ofList tableName }
  else none

def written (declared : Declared) : String :=
  String.ofList <|
    "CREATE FOREIGN TABLE ".toList ++ Sql.quotedIdentifier declared.table ++ " (".toList ++
      Sql.commaSeparated (declared.columns.map columnText) ++ ") SERVER ".toList ++
      Sql.quotedIdentifier declared.server ++ " OPTIONS (schema_name ".toList ++
      Sql.literal declared.schemaName ++ ", table_name ".toList ++
      Sql.literal declared.tableName ++ [')']

theorem ofText?_written (declared : Declared) : ofText? declared.written = some declared := by
  obtain ⟨table, columns, server, schemaName, tableName⟩ := declared
  have dropped : ∀ front rest : List Char, (front ++ rest).dropPrefix? front = some rest :=
    fun front rest => List.dropPrefix?_append_of_beq rest (beq_self_eq_true front)
  have identified : ∀ (name : String) {rest : List Char}, rest.head? ≠ some '"' →
      Sql.quoted? '"' (Sql.quotedIdentifier name ++ rest) = some (name.toList, rest) :=
    fun name _ apart => Sql.quoted?_eq_some_iff.mpr ⟨rfl, apart⟩
  have quoted : ∀ (value : String) {rest : List Char}, rest.head? ≠ some '\'' →
      Sql.quoted? '\'' (Sql.literal value ++ rest) = some (value.toList, rest) :=
    fun value _ apart => Sql.quoted?_eq_some_iff.mpr ⟨rfl, apart⟩
  have closing : ") SERVER ".toList = ')' :: " SERVER ".toList := rfl
  unfold ofText? written
  simp only [String.toList_ofList, List.append_assoc, closing, List.cons_append]
  -- the steps of the reader meet what was written one after another
  refine Option.bind_eq_some_iff.mpr ⟨_, dropped _ _, ?_⟩
  refine Option.bind_eq_some_iff.mpr ⟨_, identified table nofun, ?_⟩
  refine Option.bind_eq_some_iff.mpr ⟨_, dropped _ _, ?_⟩
  refine Option.bind_eq_some_iff.mpr ⟨_, columns?_commaSeparated columns _, ?_⟩
  refine Option.bind_eq_some_iff.mpr ⟨_, dropped _ _, ?_⟩
  refine Option.bind_eq_some_iff.mpr ⟨_, identified server nofun, ?_⟩
  refine Option.bind_eq_some_iff.mpr ⟨_, dropped _ _, ?_⟩
  refine Option.bind_eq_some_iff.mpr ⟨_, quoted schemaName nofun, ?_⟩
  refine Option.bind_eq_some_iff.mpr ⟨_, dropped _ _, ?_⟩
  refine Option.bind_eq_some_iff.mpr ⟨_, quoted tableName nofun, ?_⟩
  simp only [if_true, String.ofList_toList]
  rfl

end Declared

end ForeignTable
