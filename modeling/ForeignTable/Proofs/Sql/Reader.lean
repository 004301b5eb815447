import ForeignTable.Proofs.Sql.Written

/-! A reader of statements. Names stand in single tokens, so it finds key words and commas
without regard to what tables and columns are called. It reads a text as a statement exactly
when the text has the tokens that the statement is written with. -/

set_option autoImplicit false

namespace ForeignTable.Sql

/-!
## The reader
-/

def columnOf? : List Token → Option String
  | [.name name] => some name
  | _ => none

def equationOf? : List Token → Option String
  | [.name name, .equals, .placeholder] => some name
  | _ => none

def placeholderOf? : List Token → Option Unit
  | [.placeholder] => some ()
  | _ => none

def tableOf? : List Token → Option TableName
  | [.name keyspace, .point, .name table] => some ⟨keyspace, table⟩
  | _ => none

def listedOf? {Item : Type} (item? : List Token → Option Item) (tokens : List Token) :
    Option (List Item) :=
  (tokens.splitOn .comma).mapM item?

def enclosedOf? : List Token → Option (List Token)
  | .opening :: rest => if rest.getLast? = some .closing then some rest.dropLast else none
  | _ => none

def selectedOf? (tokens : List Token) : Option (List String) :=
  if tokens = [.keyword .NULL] then some [] else listedOf? columnOf? tokens

/-- The columns of an insert, which has one placeholder for each of them. -/
def insertedOf? (tokens : List Token) : Option (List String) :=
  if tokens = [.keyword .DEFAULT, .keyword .VALUES] then some []
  else
    match tokens.splitOn (.keyword .VALUES) with
    | [columns, values] => do
        let names ← (enclosedOf? columns).bind (listedOf? columnOf?)
        let placeholders ← (enclosedOf? values).bind (listedOf? placeholderOf?)
        if placeholders.length = names.length then some names else none
    | _ => none

/-- The statement that all of the tokens make up. -/
def Statement.ofTokens? : List Token → Option Statement
  | .keyword .SELECT :: rest =>
      match rest.splitOn (.keyword .FROM) with
      | [columns, table] => do return .select (← tableOf? table) (← selectedOf? columns)
      | _ => none
  | .keyword .INSERT :: .keyword .INTO :: .name keyspace :: .point :: .name table :: rest =>
      match rest.splitOn (.keyword .ON) with
      | [values] => do return .insert ⟨keyspace, table⟩ (← insertedOf? values) false
      | [values, [.keyword .CONFLICT, .keyword .DO, .keyword .NOTHING]] => do
          return .insert ⟨keyspace, table⟩ (← insertedOf? values) true
      | _ => none
  | .keyword .UPDATE :: .name keyspace :: .point :: .name table :: .keyword .SET :: rest =>
      match rest.splitOn (.keyword .WHERE) with
      | [columns, key] => do
          return .update ⟨keyspace, table⟩ (← listedOf? equationOf? columns) (← equationOf? key)
      | _ => none
  | .keyword .DELETE :: .keyword .FROM :: .name keyspace :: .point :: .name table ::
      .keyword .WHERE :: key => do return .delete ⟨keyspace, table⟩ (← equationOf? key)
  | _ => none

/-- The statement that a text is read as, from its first character to its last. -/
def Statement.ofText? (text : String) : Option Statement :=
  (Unfinished.nothing.tokens? text.toList).bind ofTokens?

private theorem splitOn_pair {separator : Token} {left right : List Token}
    (before : separator ∉ left) (behind : separator ∉ right) :
    (left ++ separator :: right).splitOn separator = [left, right] := by
  have apart : ∀ part ∈ [left, right], separator ∉ part := by simp [before, behind]
  simpa using List.splitOn_intercalate separator apart (List.cons_ne_nil _ _)

private theorem splitOn_single {separator : Token} {tokens : List Token}
    (apart : separator ∉ tokens) :
    tokens.splitOn separator = [tokens] := by
  have apart : ∀ part ∈ [tokens], separator ∉ part := by simpa using apart
  simpa using List.splitOn_intercalate separator apart (List.cons_ne_nil _ _)

private theorem eq_of_splitOn_pair {separator : Token} {tokens left right : List Token}
    (split : tokens.splitOn separator = [left, right]) : tokens = left ++ separator :: right := by
  have whole : [separator].intercalate (tokens.splitOn separator) = tokens :=
    List.intercalate_splitOn separator
  rw [split] at whole
  simpa using whole.symm

private theorem eq_of_splitOn_single {separator : Token} {tokens part : List Token}
    (split : tokens.splitOn separator = [part]) : tokens = part := by
  have whole : [separator].intercalate (tokens.splitOn separator) = tokens :=
    List.intercalate_splitOn separator
  rw [split] at whole
  simpa using whole.symm

/-!
## Parts of statements
-/

theorem columnOf?_eq_some_iff {tokens : List Token} {name : String} :
    columnOf? tokens = some name ↔ tokens = columnTokens name := by
  constructor
  · intro success
    unfold columnOf? at success
    split at success <;> cases success
    rfl
  · rintro rfl
    rfl

theorem equationOf?_eq_some_iff {tokens : List Token} {name : String} :
    equationOf? tokens = some name ↔ tokens = equationTokens name := by
  constructor
  · intro success
    unfold equationOf? at success
    split at success <;> cases success
    rfl
  · rintro rfl
    rfl

theorem placeholderOf?_eq_some_iff {tokens : List Token} {item : Unit} :
    placeholderOf? tokens = some item ↔ tokens = [.placeholder] := by
  constructor
  · intro success
    unfold placeholderOf? at success
    split at success <;> cases success
    rfl
  · rintro rfl
    rfl

theorem tableOf?_eq_some_iff {tokens : List Token} {table : TableName} :
    tableOf? tokens = some table ↔ tokens = table.tokens := by
  constructor
  · intro success
    unfold tableOf? at success
    split at success <;> cases success
    rfl
  · rintro rfl
    rfl

theorem enclosedOf?_eq_some_iff {tokens inner : List Token} :
    enclosedOf? tokens = some inner ↔ tokens = enclosedTokens inner := by
  constructor
  · intro success
    unfold enclosedOf? at success
    split at success
    · split at success
      · rename_i last
        obtain ⟨earlier, rfl⟩ := List.getLast?_eq_some_iff.mp last
        cases success
        rw [List.dropLast_concat]
        rfl
      · cases success
    · cases success
  · rintro rfl
    simp [enclosedOf?, enclosedTokens]

section

variable {Item : Type} {item? : List Token → Option Item} {form : Item → List Token}

theorem mapM_eq_some_iff (reads : ∀ part item, item? part = some item ↔ part = form item)
    {parts : List (List Token)} {items : List Item} :
    parts.mapM item? = some items ↔ parts = items.map form := by
  induction parts generalizing items with
  | nil => cases items <;> simp
  | cons part rest ih =>
      rw [List.mapM_cons]
      constructor
      · intro success
        obtain ⟨item, first, continuation⟩ := Option.bind_eq_some_iff.mp success
        obtain ⟨others, remaining, shape⟩ := Option.bind_eq_some_iff.mp continuation
        cases shape
        rw [(reads part item).mp first, ih.mp remaining]
        rfl
      · intro shape
        cases items with
        | nil => cases shape
        | cons item others =>
            obtain ⟨first, remaining⟩ := List.cons.inj shape
            rw [(reads part item).mpr first, ih.mpr remaining]
            rfl

theorem listedOf?_eq_some_iff
    (reads : ∀ part item, item? part = some item ↔ part = form item)
    (apart : ∀ item, .comma ∉ form item) {tokens : List Token} {items : List Item} :
    listedOf? item? tokens = some items ↔ items ≠ [] ∧ tokens = listed (items.map form) := by
  unfold listedOf?
  rw [mapM_eq_some_iff reads]
  constructor
  · intro split
    constructor
    · rintro rfl
      exact List.splitOn_ne_nil _ _ split
    · unfold listed
      rw [← split, List.intercalate_splitOn]
  · rintro ⟨listing, rfl⟩
    refine List.splitOn_intercalate _ ?_ (by simpa using listing)
    rintro _ member
    obtain ⟨item, _, rfl⟩ := List.mem_map.mp member
    exact apart item

private theorem keyword_not_mem_listed {word : Keyword} (apart : ∀ item, .keyword word ∉ form item)
    (items : List Item) : .keyword word ∉ listed (items.map form) := by
  induction items with
  | nil => exact List.not_mem_nil
  | cons item rest ih =>
      cases rest with
      | nil => simpa [listed] using apart item
      | cons second rest => simpa [listed, apart item] using ih

end

theorem listedOf?_columns_iff {tokens : List Token} {columns : List String} :
    listedOf? columnOf? tokens = some columns ↔
      columns ≠ [] ∧ tokens = listed (columns.map columnTokens) :=
  listedOf?_eq_some_iff (fun _ _ => columnOf?_eq_some_iff) (fun _ => by simp [columnTokens])

theorem listedOf?_equations_iff {tokens : List Token} {columns : List String} :
    listedOf? equationOf? tokens = some columns ↔
      columns ≠ [] ∧ tokens = listed (columns.map equationTokens) :=
  listedOf?_eq_some_iff (fun _ _ => equationOf?_eq_some_iff) (fun _ => by simp [equationTokens])

theorem listedOf?_placeholders_iff {tokens : List Token} {marks : List Unit} :
    listedOf? placeholderOf? tokens = some marks ↔
      marks ≠ [] ∧ tokens = listed (marks.map fun _ => [.placeholder]) :=
  listedOf?_eq_some_iff (fun _ _ => placeholderOf?_eq_some_iff) (fun _ => by simp)

private theorem keyword_not_mem_columns (word : Keyword) (columns : List String) :
    .keyword word ∉ listed (columns.map columnTokens) :=
  keyword_not_mem_listed (fun _ => by simp [columnTokens]) columns

private theorem keyword_not_mem_placeholders (word : Keyword) (columns : List String) :
    .keyword word ∉ listed (columns.map placeholderTokens) :=
  keyword_not_mem_listed (fun _ => by simp [placeholderTokens]) columns

private theorem keyword_not_mem_enclosedTokens {word : Keyword} {inner : List Token}
    (apart : .keyword word ∉ inner) : .keyword word ∉ enclosedTokens inner := by
  simp [enclosedTokens, apart]

private theorem keyword_not_mem_selectedTokens (columns : List String) :
    .keyword .FROM ∉ selectedTokens columns := by
  unfold selectedTokens
  split
  · decide
  · exact keyword_not_mem_columns .FROM columns

private theorem keyword_not_mem_insertedTokens (columns : List String) :
    .keyword .ON ∉ insertedTokens columns := by
  unfold insertedTokens
  split
  · decide
  · have names := keyword_not_mem_columns .ON columns
    have marks := keyword_not_mem_placeholders .ON columns
    simp [enclosedTokens, names, marks]

theorem selectedOf?_eq_some_iff {tokens : List Token} {columns : List String} :
    selectedOf? tokens = some columns ↔ tokens = selectedTokens columns := by
  unfold selectedOf?
  constructor
  · intro success
    split at success
    · rename_i null
      cases success
      exact null
    · obtain ⟨listing, rfl⟩ := listedOf?_columns_iff.mp success
      exact (if_neg (mt List.isEmpty_iff.mp listing)).symm
  · rintro rfl
    cases columns with
    | nil => rfl
    | cons name rest =>
        have other : selectedTokens (name :: rest) ≠ [.keyword .NULL] := by
          intro same
          have apart : .keyword .NULL ∉ selectedTokens (name :: rest) :=
            keyword_not_mem_columns .NULL (name :: rest)
          rw [same] at apart
          exact apart List.mem_cons_self
        rw [if_neg other]
        exact listedOf?_columns_iff.mpr ⟨List.cons_ne_nil name rest, rfl⟩

/-- An insert has one placeholder for each of its columns. -/
theorem placeholders_eq {marks : List Unit} {columns : List String}
    (size : marks.length = columns.length) :
    (marks.map fun _ => [Token.placeholder]) = columns.map placeholderTokens := by
  unfold placeholderTokens
  rw [List.map_const', List.map_const', size]

theorem insertedOf?_eq_some_iff {tokens : List Token} {columns : List String} :
    insertedOf? tokens = some columns ↔ tokens = insertedTokens columns := by
  unfold insertedOf?
  constructor
  · intro success
    split at success
    · rename_i defaults
      cases success
      exact defaults
    · split at success
      · rename_i split
        simp only [Option.bind_eq_bind, Option.bind_eq_some_iff] at success
        obtain ⟨names, ⟨_, before, named⟩, marks, ⟨_, behind, marked⟩, counted⟩ := success
        split at counted
        · rename_i size
          cases counted
          obtain ⟨listing, rfl⟩ := listedOf?_columns_iff.mp named
          obtain ⟨_, rfl⟩ := listedOf?_placeholders_iff.mp marked
          rw [eq_of_splitOn_pair split, enclosedOf?_eq_some_iff.mp before,
            enclosedOf?_eq_some_iff.mp behind, placeholders_eq size]
          exact (if_neg (mt List.isEmpty_iff.mp listing)).symm
        · cases counted
      · cases success
  · rintro rfl
    unfold insertedTokens
    split
    · rename_i empty
      rw [List.isEmpty_iff.mp empty]
      rfl
    · rename_i nonempty
      have listing : columns ≠ [] := mt List.isEmpty_iff.mpr nonempty
      have names := keyword_not_mem_enclosedTokens (keyword_not_mem_columns .VALUES columns)
      have places :=
        keyword_not_mem_enclosedTokens (keyword_not_mem_placeholders .VALUES columns)
      have marks : (columns.map fun _ => ()).length = columns.length := List.length_map _
      have named := listedOf?_columns_iff.mpr ⟨listing, rfl⟩
      have marked := listedOf?_placeholders_iff.mpr
        ⟨mt List.map_eq_nil_iff.mp listing, congrArg listed (placeholders_eq marks).symm⟩
      have enclosed : ∀ inner, enclosedOf? (enclosedTokens inner) = some inner :=
        fun inner => enclosedOf?_eq_some_iff.mpr rfl
      rw [if_neg nofun, splitOn_pair names places]
      simp [enclosed, named, marked]

/-!
## Statements
-/

private theorem Statement.ofTokens?_sound {tokens : List Token} {statement : Statement}
    (success : ofTokens? tokens = some statement) :
    tokens = statement.tokens ∧ ∀ table key, statement ≠ .update table [] key := by
  unfold ofTokens? at success
  split at success
  · split at success
    · rename_i split
      obtain ⟨table, source, continuation⟩ := Option.bind_eq_some_iff.mp success
      obtain ⟨columns, selected, shape⟩ := Option.bind_eq_some_iff.mp continuation
      cases shape
      rw [eq_of_splitOn_pair split, tableOf?_eq_some_iff.mp source,
        selectedOf?_eq_some_iff.mp selected]
      exact ⟨rfl, nofun⟩
    · cases success
  · split at success
    · rename_i split
      obtain ⟨columns, inserted, shape⟩ := Option.bind_eq_some_iff.mp success
      cases shape
      rw [eq_of_splitOn_single split, insertedOf?_eq_some_iff.mp inserted]
      refine ⟨?_, nofun⟩
      simp [tokens, TableName.tokens, conflictTokens]
    · rename_i split
      obtain ⟨columns, inserted, shape⟩ := Option.bind_eq_some_iff.mp success
      cases shape
      rw [eq_of_splitOn_pair split, insertedOf?_eq_some_iff.mp inserted]
      exact ⟨rfl, nofun⟩
    · cases success
  · split at success
    · rename_i split
      obtain ⟨columns, assigned, continuation⟩ := Option.bind_eq_some_iff.mp success
      obtain ⟨key, keyed, shape⟩ := Option.bind_eq_some_iff.mp continuation
      cases shape
      obtain ⟨listing, rfl⟩ := listedOf?_equations_iff.mp assigned
      rw [eq_of_splitOn_pair split, equationOf?_eq_some_iff.mp keyed]
      refine ⟨rfl, ?_⟩
      rintro _ _ ⟨⟩
      exact listing rfl
    · cases success
  · obtain ⟨key, keyed, shape⟩ := Option.bind_eq_some_iff.mp success
    cases shape
    rw [equationOf?_eq_some_iff.mp keyed]
    exact ⟨rfl, nofun⟩
  · cases success

private theorem Statement.ofTokens?_tokens (statement : Statement)
    (assigns : ∀ table key, statement ≠ .update table [] key) :
    ofTokens? statement.tokens = some statement := by
  cases statement with
  | select table columns =>
      have source : Token.keyword .FROM ∉ table.tokens := by simp [TableName.tokens]
      have split := splitOn_pair (keyword_not_mem_selectedTokens columns) source
      have selected : selectedOf? (selectedTokens columns) = some columns :=
        selectedOf?_eq_some_iff.mpr rfl
      simp only [tokens, ofTokens?, split, selected]
      rfl
  | insert table columns keepExisting =>
      have apart := keyword_not_mem_insertedTokens columns
      have inserted : insertedOf? (insertedTokens columns) = some columns :=
        insertedOf?_eq_some_iff.mpr rfl
      cases keepExisting with
      | true =>
          have split : (insertedTokens columns ++ conflictTokens true).splitOn (.keyword .ON) =
              [insertedTokens columns,
                [.keyword .CONFLICT, .keyword .DO, .keyword .NOTHING]] :=
            splitOn_pair apart (by decide)
          simp only [tokens, TableName.tokens, List.cons_append, List.nil_append, ofTokens?,
            split, inserted]
          rfl
      | false =>
          have split : (insertedTokens columns ++ conflictTokens false).splitOn
              (.keyword .ON) = [insertedTokens columns] := by
            rw [conflictTokens, if_neg nofun, List.append_nil, splitOn_single apart]
          simp only [tokens, TableName.tokens, List.cons_append, List.nil_append, ofTokens?,
            split, inserted]
          rfl
  | update table columns key =>
      -- an update of no columns would list one part without a name
      have listing : columns ≠ [] := by
        rintro rfl
        exact assigns table key rfl
      have columnsApart : Token.keyword .WHERE ∉ listed (columns.map equationTokens) :=
        keyword_not_mem_listed (fun _ => by simp [equationTokens]) columns
      have keyApart : Token.keyword .WHERE ∉ equationTokens key := by simp [equationTokens]
      have split := splitOn_pair columnsApart keyApart
      simp only [tokens, TableName.tokens, List.cons_append, List.nil_append, ofTokens?, split,
        listedOf?_equations_iff.mpr ⟨listing, rfl⟩]
      rfl
  | delete table key => rfl

/-- A text is read as a statement exactly when its tokens are those that the statement is
written with, and an update assigns something. -/
theorem Statement.ofText?_eq_some_iff {text : String} {statement : Statement} :
    ofText? text = some statement ↔
      Reads text.toList statement.tokens ∧ ∀ table key, statement ≠ .update table [] key := by
  unfold ofText?
  rw [Option.bind_eq_some_iff]
  constructor
  · rintro ⟨tokens, reads, success⟩
    obtain ⟨rfl, assigns⟩ := ofTokens?_sound success
    exact ⟨reads, assigns⟩
  · rintro ⟨reads, assigns⟩
    exact ⟨_, reads, ofTokens?_tokens statement assigns⟩

/-- What is written is read back, if an update assigns anything. -/
theorem Statement.ofText?_text (statement : Statement)
    (assigns : ∀ table key, statement ≠ .update table [] key) :
    ofText? statement.text = some statement := by
  refine ofText?_eq_some_iff.mpr ⟨?_, assigns⟩
  rw [text, String.toList_ofList]
  exact statement.reads_characters

end ForeignTable.Sql
