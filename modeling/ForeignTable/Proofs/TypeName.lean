import ForeignTable.Proofs.Import.Keyspace
import ForeignTable.Proofs.Text.Letters
import Mathlib.Data.List.TakeWhile

/-! Names of remote types. A name is looked up by what stands in front of its parameters, in any
letter case and with blanks around it; a name that is not known is kept whole. Either way the name
that a message shows resolves to the same type. -/

set_option autoImplicit false

namespace ForeignTable.Remote.Kind

open Text (isBlank lower trim)

/-!
## Base names
-/

def beforeParameters (c : Char) : Bool := c != '<'

private theorem beforeParameters_toLower (c : Char) :
    beforeParameters c.toLower = beforeParameters c :=
  Text.test_toLower beforeParameters (by decide) c

private theorem beforeParameters_of_blank {c : Char} (blank : isBlank c = true) :
    beforeParameters c = true := by
  apply bne_iff_ne.mpr
  intro bracket
  subst bracket
  cases blank

private theorem takeWhile_lower (text : List Char) :
    (lower text).takeWhile beforeParameters = lower (text.takeWhile beforeParameters) := by
  have kept : beforeParameters ∘ Char.toLower = beforeParameters :=
    funext beforeParameters_toLower
  rw [lower, List.takeWhile_map, kept]
  rfl

private theorem exists_takeWhile_append {gap : List Char} (blank : ∀ c ∈ gap, isBlank c = true)
    (text : List Char) : ∃ rest, (∀ c ∈ rest, isBlank c = true) ∧
      (text ++ gap).takeWhile beforeParameters = text.takeWhile beforeParameters ++ rest := by
  rw [List.takeWhile_append]
  split
  · rename_i unparted
    have kept := (List.takeWhile_prefix beforeParameters).eq_of_length unparted
    refine ⟨gap.takeWhile beforeParameters, ?_, by rw [kept]⟩
    intro c member
    exact blank c ((List.takeWhile_prefix beforeParameters).subset member)
  · exact ⟨[], nofun, (List.append_nil _).symm⟩

/-- Blanks around a name do not change what is left of the part before its parameters. -/
theorem trim_takeWhile_trim (text : List Char) :
    trim ((trim text).takeWhile beforeParameters) = trim (text.takeWhile beforeParameters) := by
  obtain ⟨before, after, whole, blank⟩ := Text.exists_trim text
  obtain ⟨leading, trailing⟩ := List.forall_mem_append.mp blank
  obtain ⟨rest, behind, cut⟩ := exists_takeWhile_append trailing (trim text)
  have shape : text.takeWhile beforeParameters =
      before ++ (trim text).takeWhile beforeParameters ++ rest := by
    conv_lhs => rw [whole, List.append_assoc]
    rw [List.takeWhile_append_of_pos fun c member => beforeParameters_of_blank (leading c member),
      cut, List.append_assoc]
  rw [shape, Text.trim_of_blank (List.forall_mem_append.mpr ⟨leading, behind⟩)]

/-- The base name is what stands in front of the parameters, without blanks and in small
letters. -/
theorem baseName_eq (text : List Char) :
    baseName text = lower (trim (text.takeWhile beforeParameters)) := by
  have cut : baseName text = lower (trim ((trim text).takeWhile beforeParameters)) := by
    rw [← Text.trim_lower, ← takeWhile_lower]
    simp only [baseName]
    split
    · rfl
    · rename_i unparted
      have bare : (lower (trim text)).takeWhile beforeParameters = lower (trim text) := by
        apply List.takeWhile_eq_self_iff.mpr
        intro c member
        apply bne_iff_ne.mpr
        intro bracket
        exact unparted (List.contains_iff_mem.mpr (bracket ▸ member))
      rw [bare, Text.trim_lower, Text.trim_trim]
  rw [cut, trim_takeWhile_trim]

/-- The text is the name in any letter case, with blanks around it and then nothing or
parameters, which an angle bracket opens. -/
def Spells (base : String) (text : List Char) : Prop :=
  ∃ before head after tail, text = before ++ head ++ after ++ tail ∧
    (∀ c ∈ before ++ after, isBlank c = true) ∧ lower head = base.toList ∧
    ∀ c ∈ tail.head?, c = '<'

/-- What a name must be like to be found in a longer text. -/
def Plain (base : String) : Prop :=
  ∀ c ∈ base.toList, isBlank c = false ∧ c ≠ '<' ∧ c.toLower = c

instance (base : String) : Decidable (Plain base) :=
  List.decidableBAll _ base.toList

theorem spells_iff {base : String} (plain : Plain base) {text : List Char} :
    Spells base text ↔ baseName text = base.toList := by
  rw [baseName_eq]
  constructor
  · intro ⟨before, head, after, tail, shape, blank, same, opened⟩
    obtain ⟨leading, trailing⟩ := List.forall_mem_append.mp blank
    have clean : ∀ c ∈ head, isBlank c = false ∧ beforeParameters c = true := by
      intro c member
      have lowered : c.toLower ∈ base.toList := same ▸ List.mem_map_of_mem member
      obtain ⟨filled, unparted, _⟩ := plain _ lowered
      rw [← Text.isBlank_toLower, ← beforeParameters_toLower]
      exact ⟨filled, bne_iff_ne.mpr unparted⟩
    have front : ∀ c ∈ before ++ head ++ after, beforeParameters c = true := by
      simp only [List.forall_mem_append]
      exact ⟨⟨fun c member => beforeParameters_of_blank (leading c member),
        fun c member => (clean c member).2⟩,
        fun c member => beforeParameters_of_blank (trailing c member)⟩
    have stops : ∀ c ∈ tail.head?, beforeParameters c = false := by
      intro c here
      rw [opened c here]
      rfl
    rw [shape, Text.takeWhile_append_of_stop front stops,
      Text.trim_between blank fun c member => (clean c member).1, same]
  · intro named
    obtain ⟨before, after, shape, blank⟩ := Text.exists_trim (text.takeWhile beforeParameters)
    refine ⟨before, _, after, text.dropWhile beforeParameters, ?_, blank, named, ?_⟩
    · rw [← shape, List.takeWhile_append_dropWhile]
    · intro c here
      exact bne_eq_false_iff_eq.mp (Text.stops_dropWhile beforeParameters text c here)

private theorem baseName_trim (text : List Char) : baseName (trim text) = baseName text := by
  rw [baseName_eq, baseName_eq, trim_takeWhile_trim]

private theorem Plain.baseName_eq {base : String} (plain : Plain base) :
    baseName base.toList = base.toList := by
  apply (spells_iff plain).mp
  refine ⟨[], base.toList, [], [], by simp, nofun, ?_, nofun⟩
  calc lower base.toList = base.toList.map id :=
        List.map_congr_left fun c member => (plain c member).2.2
    _ = base.toList := List.map_id _

/-!
## Resolution
-/

variable {base name : String} {kind : Kind}

private theorem known_name (known : ofBaseName? base = some kind) :
    Plain base ∧ kind.name = base := by
  unfold ofBaseName? at known
  split at known <;> cases known
  all_goals exact ⟨by decide, rfl⟩

/-- What a name resolves to: a known type when it spells the name of one, and otherwise a type of
its own, with the whole name but the blanks around it. -/
inductive Resolves (name : String) : Kind → Prop where
  | known {base : String} {kind : Kind} : ofBaseName? base = some kind →
      Spells base name.toList → Resolves name kind
  | unknown : (∀ base kind, ofBaseName? base = some kind → ¬Spells base name.toList) →
      Resolves name (unknown (String.ofList (trim name.toList)))

theorem lookup_eq_none_iff :
    ofBaseName? (String.ofList (baseName name.toList)) = none ↔
      ∀ base kind, ofBaseName? base = some kind → ¬Spells base name.toList := by
  constructor
  · intro unfound base kind known spelled
    rw [(spells_iff (known_name known).1).mp spelled, String.ofList_toList, known] at unfound
    cases unfound
  · intro unspelled
    apply Option.eq_none_iff_forall_ne_some.mpr
    intro kind known
    apply unspelled _ kind known
    apply (spells_iff (known_name known).1).mpr
    rw [String.toList_ofList]

private theorem ofName_of_known (known : ofBaseName? base = some kind)
    (named : baseName name.toList = base.toList) : ofName name = kind := by
  rw [ofName, named, String.ofList_toList, known]
  rfl

private theorem ofName_of_unknown
    (unfound : ofBaseName? (String.ofList (baseName name.toList)) = none) :
    ofName name = unknown (String.ofList (trim name.toList)) := by
  rw [ofName, unfound]
  rfl

theorem ofName_eq_iff : ofName name = kind ↔ Resolves name kind := by
  constructor
  · intro resolved
    subst resolved
    cases found : ofBaseName? (String.ofList (baseName name.toList)) with
    | some kind =>
        have named : baseName name.toList = (String.ofList (baseName name.toList)).toList := by
          rw [String.toList_ofList]
        rw [ofName_of_known found named]
        exact .known found ((spells_iff (known_name found).1).mpr named)
    | none =>
        rw [ofName_of_unknown found]
        exact .unknown (lookup_eq_none_iff.mp found)
  · intro resolves
    cases resolves with
    | known known spelled =>
        exact ofName_of_known known ((spells_iff (known_name known).1).mp spelled)
    | unknown unspelled => exact ofName_of_unknown (lookup_eq_none_iff.mpr unspelled)

/-!
## Display names
-/

private theorem name_unknown {spelling : String} (filled : spelling ≠ "") :
    (unknown spelling).name = spelling := by
  unfold Kind.name
  split <;> simp_all

theorem Resolves.shown (resolves : Resolves name kind)
    (filled : ∃ c ∈ name.toList, isBlank c = false) : ofName kind.name = kind := by
  cases resolves with
  | known known _ =>
      obtain ⟨plain, shown⟩ := known_name known
      rw [shown]
      exact ofName_of_known known plain.baseName_eq
  | unknown unspelled =>
      have visible : String.ofList (trim name.toList) ≠ "" := by
        intro empty
        obtain ⟨c, member, unblank⟩ := filled
        have spent : trim name.toList = [] := String.ofList_eq_empty_iff.mp empty
        rw [Text.trim_eq_nil_iff.mp spent c member] at unblank
        cases unblank
      have again : ofBaseName? (String.ofList
          (baseName (String.ofList (trim name.toList)).toList)) = none := by
        rw [String.toList_ofList, baseName_trim]
        exact lookup_eq_none_iff.mpr unspelled
      rw [name_unknown visible, ofName_of_unknown again, String.toList_ofList, Text.trim_trim]

private theorem ofName_of_blank (blank : ∀ c ∈ name.toList, isBlank c = true) :
    ofName name = unknown "" := by
  have spent := Text.trim_eq_nil_iff.mpr blank
  have unfound : ofBaseName? (String.ofList (baseName name.toList)) = none := by
    rw [← baseName_trim, spent]
    rfl
  rw [ofName_of_unknown unfound, spent]

/-- Only for blanks alone the shown name is no name of the same type. -/
theorem ofName_name_iff :
    ofName (ofName name).name = ofName name ↔ ∃ c ∈ name.toList, isBlank c = false := by
  constructor
  · intro same
    by_contra unfilled
    have blank : ∀ c ∈ name.toList, isBlank c = true := by
      simpa only [not_exists, not_and, Bool.not_eq_false] using unfilled
    rw [ofName_of_blank blank] at same
    have other : ofName (unknown "").name = unknown "unknown" := rfl
    rw [other] at same
    exact absurd (unknown.inj same) (by decide)
  · exact (ofName_eq_iff.mp rfl).shown

/-- The types that texts with more than blanks resolve to. -/
def Named (kind : Kind) : Prop :=
  ∃ name : String, (∃ c ∈ name.toList, isBlank c = false) ∧ ofName name = kind

private theorem Named.ofName_name (named : Named kind) : ofName kind.name = kind := by
  obtain ⟨name, filled, resolved⟩ := named
  exact (ofName_eq_iff.mp resolved).shown filled

/-!
## Skipped tables
-/

/-- The warning about a table shows a name that resolves to the type of the table's first column
without a column type. -/
def TellsType (keyspace : String) (table : TableInfo) (warning : Import.Warning) : Prop :=
  ∃ column spelling, Import.FirstUnsupported table column ∧
    warning = .skippedTable keyspace table.name column.name (.unsupported spelling) ∧
    ofName spelling = column.kind

private theorem tellsType_of_explains {keyspace : String} {table : TableInfo}
    {warning : Import.Warning} (named : ∀ column ∈ table.columns, Named column.kind)
    (explains : Import.Explains keyspace table warning) : TellsType keyspace table warning := by
  obtain ⟨column, first, same⟩ := explains
  exact ⟨column, _, first, same, (named column first.mem).ofName_name⟩

/-- Which type a name resolves to depends on its base name alone, and a name that is not known stays
whole. The name that is shown for the type resolves to the type again unless there was nothing but
blanks, so the warning about a table that is left out tells which type its column has. -/
theorem type_name_resolution :
    (∀ name kind, ofName name = kind ↔ Resolves name kind) ∧
    (∀ name : String, ofName (ofName name).name = ofName name ↔
      ∃ c ∈ name.toList, isBlank c = false) ∧
    ∀ (keyspace : Keyspace) (request : Import.Request),
      (∀ table ∈ keyspace.tables, ∀ column ∈ table.columns, Named column.kind) →
      List.Forall₂ (TellsType keyspace.name)
        ((Import.handled keyspace request.filter).filter fun table => !Import.supported table)
        (Import.ofKeyspace keyspace request).warnings := by
  refine ⟨?_, ?_, ?_⟩
  · intro name kind
    exact ofName_eq_iff
  · intro name
    exact ofName_name_iff
  · intro keyspace request named
    have covers := Import.covers_tables keyspace.name request.server
      (Import.handled keyspace request.filter)
    have skipped : ∀ table ∈ (Import.handled keyspace request.filter).filter
        fun table => !Import.supported table, ∀ column ∈ table.columns, Named column.kind := by
      intro table member
      exact named table (List.mem_of_mem_filter (List.mem_of_mem_filter member))
    rw [Import.ofKeyspace_eq]
    refine ((List.forall₂_and_left _ _).mpr ⟨skipped, covers.explained⟩).imp ?_
    intro table warning ⟨columns, explains⟩
    exact tellsType_of_explains columns explains

def crops : TableInfo where
  name := "crops"
  columns := [⟨"id", ofName "int"⟩, ⟨"weights", ofName " Map <text, list<double>> "⟩]

def orchard : Keyspace where
  name := "orchard"
  tables := [⟨"trees", [⟨"id", ofName "UUID"⟩]⟩, crops]

theorem type_name_resolution_orchard :
    ofName " Map <text, list<double>> " = map unnamed unnamed ∧
      ofName " Frozen<Set<int>>" = unknown "Frozen<Set<int>>" ∧
      (∃ c ∈ " Frozen<Set<int>>".toList, isBlank c = false) ∧
      ofName "Frozen<Set<int>>" = unknown "Frozen<Set<int>>" ∧
      (∀ table ∈ orchard.tables, ∀ column ∈ table.columns, Named column.kind) ∧
      ∃ spelling, (Import.ofKeyspace orchard { keyspace := "orchard", server := "far" }).warnings =
          [.skippedTable "orchard" "crops" "weights" (.unsupported spelling)] ∧
        ofName spelling = map unnamed unnamed := by
  obtain ⟨resolution, again, skipped⟩ := type_name_resolution
  have spelled : Spells "map" " Map <text, list<double>> ".toList :=
    ⟨[' '], "Map".toList, [' '], "<text, list<double>> ".toList, rfl, List.all_eq_true.mp rfl, rfl,
      fun _ opened => (Option.some.inj opened).symm⟩
  have pairs : ofName " Map <text, list<double>> " = map unnamed unnamed :=
    (resolution _ _).mpr (.known rfl spelled)
  have frozen : ofName " Frozen<Set<int>>" = unknown "Frozen<Set<int>>" :=
    (resolution _ _).mpr (.unknown (lookup_eq_none_iff.mp rfl))
  have filled : ∃ c ∈ " Frozen<Set<int>>".toList, isBlank c = false := ⟨'F', by decide, rfl⟩
  have shown := (again _).mpr filled
  rw [frozen] at shown
  have named : ∀ table ∈ orchard.tables, ∀ column ∈ table.columns, Named column.kind := by
    simp only [orchard, crops, List.forall_mem_cons]
    refine ⟨⟨⟨"UUID", ⟨'U', by decide, rfl⟩, rfl⟩, nofun⟩, ⟨⟨"int", ⟨'i', by decide, rfl⟩, rfl⟩,
      ⟨" Map <text, list<double>> ", ⟨'M', by decide, rfl⟩, rfl⟩, nofun⟩, nofun⟩
  refine ⟨pairs, frozen, filled, shown, named, ?_⟩
  have left : ((Import.handled orchard .everything).filter fun table =>
      !Import.supported table) = [crops] := rfl
  have told := skipped orchard { keyspace := "orchard", server := "far" } named
  rw [left] at told
  obtain ⟨_, _, ⟨column, spelling, first, same, resolved⟩, none, shape⟩ :=
    List.forall₂_cons_left_iff.mp told
  rw [shape, List.forall₂_nil_left_iff.mp none, same]
  have absent := first.columnType?_eq_none
  rcases List.mem_cons.mp first.mem with rfl | last
  · cases absent
  · cases List.mem_singleton.mp last
    exact ⟨spelling, rfl, resolved⟩

end ForeignTable.Remote.Kind
