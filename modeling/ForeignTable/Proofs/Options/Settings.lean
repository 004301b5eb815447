import ForeignTable.Proofs.Options.Acceptance

/-! Typed options. What an accepted list gives for a name is the value that is set, and what it
leaves out has its default, in whichever order the options stand. -/

set_option autoImplicit false

namespace ForeignTable

/-!
## Settings
-/

/-- What a list says for a name: the meaning of the text that is given for it, or else the
default. -/
inductive Setting {Value : Type} (options : OptionList) (name : String)
    (meaning : String → Value → Prop) (fallback : Value) : Value → Prop
  | given {text : String} {value : Value} (member : (name, text) ∈ options)
      (means : meaning text value) : Setting options name meaning fallback value
  | absent (missing : name ∉ options.map Prod.fst) :
      Setting options name meaning fallback fallback

/-- The setting that takes any text and may be left out. -/
abbrev TextSetting (options : OptionList) (name : String) (slot : Option String) : Prop :=
  Setting options name (fun text slot => slot = some text) none slot

variable {Value : Type} {options permuted : OptionList} {name : String}
  {meaning : String → Value → Prop} {fallback value : Value}

theorem Setting.perm (setting : Setting options name meaning fallback value)
    (same : options.Perm permuted) : Setting permuted name meaning fallback value := by
  cases setting with
  | given member means => exact .given (same.mem_iff.mp member) means
  | absent missing => exact .absent fun member => missing ((same.map Prod.fst).mem_iff.mpr member)

private theorem Setting.ne_any {level : Consistency}
    (setting : Setting options name (LevelText .reading) Consistency.standard level) :
    level ≠ .any := by
  cases setting with
  | given _ means => exact means.2 rfl
  | absent _ => exact nofun

private theorem exists_setting (fallback : Value)
    (means : ∀ text, (name, text) ∈ options → ∃ value, meaning text value) :
    ∃ value, Setting options name meaning fallback value := by
  by_cases member : name ∈ options.map Prod.fst
  · obtain ⟨⟨_, text⟩, inside, rfl⟩ := List.mem_map.mp member
    obtain ⟨value, denoted⟩ := means text inside
    exact ⟨value, .given inside denoted⟩
  · exact ⟨fallback, .absent member⟩

private theorem lookup_eq_some_iff_mem (distinct : (options.map Prod.fst).Nodup) {text : String} :
    options.lookup name = some text ↔ (name, text) ∈ options := by
  induction options with
  | nil => simp
  | cons option rest ih =>
      obtain ⟨other, content⟩ := option
      obtain ⟨fresh, distinct⟩ := List.nodup_cons.mp distinct
      by_cases same : name = other
      · subst same
        have elsewhere : (name, text) ∉ rest := fun member =>
          fresh (List.mem_map.mpr ⟨_, member, rfl⟩)
        simp [elsewhere, eq_comm]
      · have apart : (name == other) = false := beq_eq_false_iff_ne.mpr same
        simp [List.lookup_cons, apart, same, ih distinct]

private theorem lookup_eq_none_iff_names :
    options.lookup name = none ↔ name ∉ options.map Prod.fst := by
  rw [List.lookup_eq_none_iff]
  constructor
  · intro apart member
    obtain ⟨option, inside, same⟩ := List.mem_map.mp member
    have different := bne_iff_ne.mp (apart option inside)
    exact different same.symm
  · intro missing option inside
    refine bne_iff_ne.mpr ?_
    intro same
    exact missing (List.mem_map.mpr ⟨option, inside, same.symm⟩)

private theorem setting_iff_lookup (distinct : (options.map Prod.fst).Nodup) :
    Setting options name meaning fallback value ↔
      match options.lookup name with
      | some text => meaning text value
      | none => value = fallback := by
  constructor
  · intro setting
    cases setting with
    | given member means =>
        rw [(lookup_eq_some_iff_mem distinct).mpr member]
        exact means
    | absent missing => rw [lookup_eq_none_iff_names.mpr missing]
  · intro found
    split at found
    · rename_i text known
      exact .given ((lookup_eq_some_iff_mem distinct).mp known) found
    · rename_i unknown
      subst found
      exact .absent (lookup_eq_none_iff_names.mp unknown)

theorem textSetting_iff (distinct : (options.map Prod.fst).Nodup) {slot : Option String} :
    TextSetting options name slot ↔ options.lookup name = slot := by
  rw [TextSetting, setting_iff_lookup distinct]
  cases options.lookup name <;> exact eq_comm

theorem elim_lookup_eq_ok_iff (distinct : (options.map Prod.fst).Nodup)
    {attempt : String → Except Error Value}
    (reads : ∀ {text : String} {value : Value}, attempt text = .ok value ↔ meaning text value) :
    (options.lookup name).elim (.ok fallback) attempt = .ok value ↔
      Setting options name meaning fallback value := by
  rw [setting_iff_lookup distinct]
  cases options.lookup name with
  | none => exact ⟨fun same => (Except.ok.inj same).symm, fun same => congrArg _ same.symm⟩
  | some text => exact reads

theorem levelOption_eq_ok_iff (distinct : (options.map Prod.fst).Nodup) {use : LevelUse}
    {level : Consistency} :
    levelOption options use name = .ok level ↔
      Setting options name (LevelText use) Consistency.standard level := by
  have chosen : levelOption options use name =
      (options.lookup name).elim (.ok Consistency.standard) (Consistency.ofName use) := by
    unfold levelOption
    cases options.lookup name <;> rfl
  rw [chosen]
  exact elim_lookup_eq_ok_iff distinct ofName_eq_ok_iff

/-!
## Typed options as a list gives them
-/

structure ServerOptions.Reflects (options : OptionList) (server : ServerOptions) : Prop where
  host : Setting options "host" (fun text host => host = text) defaultHost server.host
  port : Setting options "port" PortText defaultPort server.port
  protocol : TextSetting options "protocol" server.protocol

structure UserMapping.Reflects (options : OptionList) (mapping : UserMapping) : Prop where
  username : TextSetting options "username" mapping.username
  password : TextSetting options "password" mapping.password

structure TableOptions.Reflects (options : OptionList) (table : TableOptions) : Prop where
  schemaName : TextSetting options "schema_name" table.schemaName
  tableName : TextSetting options "table_name" table.tableName
  query : TextSetting options "query" table.query
  primaryKey : TextSetting options "primary_key" table.primaryKey
  readConsistency : Setting options "read_consistency" (LevelText .reading)
    Consistency.standard table.readConsistency
  writeConsistency : Setting options "write_consistency" (LevelText .writing)
    Consistency.standard table.writeConsistency

structure ColumnOptions.Reflects (options : OptionList) (column : ColumnOptions) : Prop where
  columnName : TextSetting options "column_name" column.columnName

/-- The typed options are read exactly from the accepted lists, and hold what the list says. -/
theorem ServerOptions.ofList_eq_ok_iff {server : ServerOptions} :
    ServerOptions.ofList options = .ok server ↔
      OptionContext.server.Accepts options ∧ ServerOptions.Reflects options server := by
  have steps : ServerOptions.ofList options =
      (OptionContext.server.validate options >>= fun _ =>
        (options.lookup "port").elim (.ok defaultPort) portOfValue >>= fun port =>
        pure { host := (options.lookup "host").getD defaultHost, port
               protocol := options.lookup "protocol" }) := by
    unfold ServerOptions.ofList
    cases options.lookup "port" <;> rfl
  rw [steps, OptionContext.validate_bind_eq_ok_iff]
  simp only [Attempt.bind_eq_ok_iff]
  constructor
  · intro ⟨accepts, port, read, shape⟩
    have distinct := accepts.names.distinct
    cases shape
    refine ⟨accepts, ?_, (elim_lookup_eq_ok_iff distinct portOfValue_eq_ok_iff).mp read, ?_⟩
    · rw [setting_iff_lookup distinct]
      cases options.lookup "host" <;> rfl
    · exact (textSetting_iff distinct).mpr rfl
  · intro ⟨accepts, host, port, protocol⟩
    have distinct := accepts.names.distinct
    have read := (elim_lookup_eq_ok_iff distinct portOfValue_eq_ok_iff).mpr port
    refine ⟨accepts, server.port, read, ?_⟩
    have hosted : (options.lookup "host").getD defaultHost = server.host := by
      rw [setting_iff_lookup distinct] at host
      cases found : options.lookup "host" with
      | none => exact (found ▸ host).symm
      | some text => exact (found ▸ host).symm
    rw [hosted, (textSetting_iff distinct).mp protocol]
    rfl

theorem UserMapping.ofList_eq_ok_iff {mapping : UserMapping} :
    UserMapping.ofList options = .ok mapping ↔
      OptionContext.userMapping.Accepts options ∧ UserMapping.Reflects options mapping := by
  rw [UserMapping.ofList, OptionContext.validate_bind_eq_ok_iff]
  constructor
  · intro ⟨accepts, shape⟩
    have distinct := accepts.names.distinct
    cases shape
    exact ⟨accepts, (textSetting_iff distinct).mpr rfl, (textSetting_iff distinct).mpr rfl⟩
  · intro ⟨accepts, username, password⟩
    have distinct := accepts.names.distinct
    refine ⟨accepts, ?_⟩
    rw [(textSetting_iff distinct).mp username, (textSetting_iff distinct).mp password]
    rfl

theorem TableOptions.ofList_eq_ok_iff {table : TableOptions} :
    TableOptions.ofList options = .ok table ↔
      OptionContext.table.Accepts options ∧ TableOptions.Reflects options table := by
  rw [TableOptions.ofList, OptionContext.validate_bind_eq_ok_iff]
  simp only [Attempt.bind_eq_ok_iff]
  constructor
  · intro ⟨accepts, reading, readFound, writing, writeFound, shape⟩
    have distinct := accepts.names.distinct
    have text : ∀ name, TextSetting options name (options.lookup name) :=
      fun _ => (textSetting_iff distinct).mpr rfl
    cases shape
    exact ⟨accepts, text _, text _, text _, text _, (levelOption_eq_ok_iff distinct).mp readFound,
      (levelOption_eq_ok_iff distinct).mp writeFound⟩
  · intro ⟨accepts, schemaName, tableName, query, primaryKey, reading, writing⟩
    have distinct := accepts.names.distinct
    refine ⟨accepts, _, (levelOption_eq_ok_iff distinct).mpr reading, _,
      (levelOption_eq_ok_iff distinct).mpr writing, ?_⟩
    rw [(textSetting_iff distinct).mp schemaName, (textSetting_iff distinct).mp tableName,
      (textSetting_iff distinct).mp query, (textSetting_iff distinct).mp primaryKey]
    rfl

theorem ColumnOptions.ofList_eq_ok_iff {column : ColumnOptions} :
    ColumnOptions.ofList options = .ok column ↔
      OptionContext.column.Accepts options ∧ ColumnOptions.Reflects options column := by
  rw [ColumnOptions.ofList, OptionContext.validate_bind_eq_ok_iff]
  constructor
  · intro ⟨accepts, shape⟩
    cases shape
    exact ⟨accepts, ⟨(textSetting_iff accepts.names.distinct).mpr rfl⟩⟩
  · intro ⟨accepts, ⟨columnName⟩⟩
    refine ⟨accepts, ?_⟩
    rw [(textSetting_iff accepts.names.distinct).mp columnName]
    rfl

namespace OptionContext

def Typed : OptionContext → Type
  | server => ServerOptions
  | userMapping => UserMapping
  | table => TableOptions
  | column => ColumnOptions

def read : (context : OptionContext) → OptionList → Except Error context.Typed
  | server => ServerOptions.ofList
  | userMapping => UserMapping.ofList
  | table => TableOptions.ofList
  | column => ColumnOptions.ofList

def Reflects : (context : OptionContext) → OptionList → context.Typed → Prop
  | server => ServerOptions.Reflects
  | userMapping => UserMapping.Reflects
  | table => TableOptions.Reflects
  | column => ColumnOptions.Reflects

variable {context : OptionContext} {typed : context.Typed}

theorem read_eq_ok_iff : context.read options = .ok typed ↔
    context.Accepts options ∧ context.Reflects options typed := by
  cases context with
  | server => exact ServerOptions.ofList_eq_ok_iff
  | userMapping => exact UserMapping.ofList_eq_ok_iff
  | table => exact TableOptions.ofList_eq_ok_iff
  | column => exact ColumnOptions.ofList_eq_ok_iff

private theorem Accepts.exists_reflecting (accepts : context.Accepts options) :
    ∃ typed, context.Reflects options typed := by
  have free : ∀ name, ∃ slot, TextSetting options name slot :=
    fun name => exists_setting none fun text _ => ⟨some text, rfl⟩
  cases context with
  | server =>
      obtain ⟨host, hosted⟩ : ∃ host, Setting options "host" (fun text host => host = text)
          defaultHost host := exists_setting defaultHost fun text _ => ⟨text, rfl⟩
      obtain ⟨port, ported⟩ := exists_setting defaultPort accepts.ports
      obtain ⟨protocol, spoken⟩ := free "protocol"
      exact ⟨(⟨host, port, protocol⟩ : ServerOptions), hosted, ported, spoken⟩
  | userMapping =>
      obtain ⟨username, named⟩ := free "username"
      obtain ⟨password, guarded⟩ := free "password"
      exact ⟨(⟨username, password⟩ : UserMapping), named, guarded⟩
  | table =>
      obtain ⟨schemaName, schema⟩ := free "schema_name"
      obtain ⟨tableName, table⟩ := free "table_name"
      obtain ⟨query, asked⟩ := free "query"
      obtain ⟨primaryKey, keyed⟩ := free "primary_key"
      obtain ⟨reading, read⟩ := exists_setting Consistency.standard accepts.readLevels
      obtain ⟨writing, written⟩ := exists_setting Consistency.standard accepts.writeLevels
      exact ⟨(⟨schemaName, tableName, query, primaryKey, reading, writing⟩ : TableOptions),
        schema, table, asked, keyed, read, written⟩
  | column =>
      obtain ⟨columnName, named⟩ := free "column_name"
      exact ⟨(⟨columnName⟩ : ColumnOptions), ⟨named⟩⟩

private theorem reflects_perm (reflected : context.Reflects options typed)
    (same : options.Perm permuted) : context.Reflects permuted typed := by
  cases context with
  | server =>
      obtain ⟨host, port, protocol⟩ := reflected
      exact ⟨host.perm same, port.perm same, protocol.perm same⟩
  | userMapping =>
      obtain ⟨username, password⟩ := reflected
      exact ⟨username.perm same, password.perm same⟩
  | table =>
      obtain ⟨schemaName, tableName, query, primaryKey, reading, writing⟩ := reflected
      exact ⟨schemaName.perm same, tableName.perm same, query.perm same, primaryKey.perm same,
        reading.perm same, writing.perm same⟩
  | column =>
      obtain ⟨columnName⟩ := reflected
      exact ⟨columnName.perm same⟩

private theorem read_perm (same : options.Perm permuted)
    (success : context.read options = .ok typed) :
    context.read permuted = .ok typed := by
  obtain ⟨accepts, reflected⟩ := read_eq_ok_iff.mp success
  exact read_eq_ok_iff.mpr ⟨accepts.perm same, reflects_perm reflected same⟩

/-- An option list is accepted by what it says. The typed options are read from exactly the
accepted lists, each of them the value given for it or else its default, and from every
permutation of a list the same ones. No table reads at the level `ANY`. -/
theorem accepted_by_meaning (context : OptionContext) (options : OptionList) :
    (context.validate options = .ok () ↔ context.Accepts options) ∧
      ((∃ typed, context.read options = .ok typed) ↔ context.Accepts options) ∧
      (∀ typed, context.read options = .ok typed → context.Reflects options typed) ∧
      (∀ permuted, options.Perm permuted →
        (context.validate options = .ok () ↔ context.validate permuted = .ok ()) ∧
        ∀ typed, context.read options = .ok typed ↔ context.read permuted = .ok typed) ∧
      ∀ table, TableOptions.ofList options = .ok table → table.readConsistency ≠ .any := by
  refine ⟨validate_eq_ok_iff, ⟨?_, ?_⟩, ?_, ?_, ?_⟩
  · intro ⟨typed, success⟩
    exact (read_eq_ok_iff.mp success).1
  · intro accepts
    obtain ⟨typed, reflected⟩ := accepts.exists_reflecting
    exact ⟨typed, read_eq_ok_iff.mpr ⟨accepts, reflected⟩⟩
  · intro typed success
    exact (read_eq_ok_iff.mp success).2
  · intro permuted same
    refine ⟨?_, fun typed => ⟨read_perm same, read_perm same.symm⟩⟩
    rw [validate_eq_ok_iff, validate_eq_ok_iff]
    exact ⟨fun accepts => accepts.perm same, fun accepts => accepts.perm same.symm⟩
  · intro table success
    exact (TableOptions.ofList_eq_ok_iff.mp success).2.readConsistency.ne_any

/-- A port with blanks and a plus sign in front of the host, then behind it. -/
theorem accepted_by_meaning_port_first :
    server.validate [("port", " +0042\t"), ("host", "replica")] = .ok () ∧
      ServerOptions.ofList [("host", "replica"), ("port", " +0042\t")] =
        .ok { host := "replica", port := 42 } ∧
      server.Accepts [("host", "replica"), ("port", " +0042\t")] ∧
      ServerOptions.Reflects [("host", "replica"), ("port", " +0042\t")]
        { host := "replica", port := 42 } ∧
      ∃ table, TableOptions.ofList [("write_consistency", "ANY"), ("query", "q")] = .ok table ∧
        table.readConsistency ≠ .any := by
  have checked : server.validate [("port", " +0042\t"), ("host", "replica")] = .ok () := by decide
  have typed : ServerOptions.ofList [("port", " +0042\t"), ("host", "replica")] =
      .ok { host := "replica", port := 42 } := by decide
  obtain ⟨_, _, _, permuted, _⟩ :=
    accepted_by_meaning .server [("port", " +0042\t"), ("host", "replica")]
  obtain ⟨_, same⟩ := permuted _ (.swap _ _ [])
  have again := (same _).mp typed
  obtain ⟨_, accepted, reflected, _, _⟩ :=
    accepted_by_meaning .server [("host", "replica"), ("port", " +0042\t")]
  have read : TableOptions.ofList [("write_consistency", "ANY"), ("query", "q")] =
      .ok { query := some "q", writeConsistency := .any } := by decide
  obtain ⟨_, _, _, _, apart⟩ :=
    accepted_by_meaning .table [("write_consistency", "ANY"), ("query", "q")]
  exact ⟨checked, again, accepted.mp ⟨_, again⟩, reflected _ again, _, read, apart _ read⟩

end OptionContext

end ForeignTable
