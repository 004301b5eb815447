import ForeignTable.Proofs.WritePlanning
import Mathlib.Data.List.Sort

/-! Requests for writes. Planning succeeds for the permitted requests and for no others, whichever
of its steps makes the check, and the request alone decides what the plan says. -/

set_option autoImplicit false

namespace ForeignTable

/-!
## Assigned ordinals
-/

/-- The members of a list, each once, in the order in which they first occur in it. -/
structure FirstOccurrences (assigned targets : List Nat) : Prop where
  members : ∀ ordinal, ordinal ∈ targets ↔ ordinal ∈ assigned
  once : targets.Nodup
  ordered : targets.Pairwise fun earlier later => assigned.idxOf earlier < assigned.idxOf later

namespace FirstOccurrences

variable {assigned targets : List Nat} {ordinal : Nat}

theorem nil : FirstOccurrences [] [] := ⟨fun _ => Iff.rfl, .nil, .nil⟩

/-- More text behind a list leaves the first occurrences in it where they are. -/
theorem ordered_append (first : FirstOccurrences assigned targets) (more : List Nat) :
    targets.Pairwise fun earlier later =>
      (assigned ++ more).idxOf earlier < (assigned ++ more).idxOf later := by
  refine first.ordered.imp_of_mem ?_
  intro earlier later here there before
  rw [List.idxOf_append_of_mem ((first.members _).mp here),
    List.idxOf_append_of_mem ((first.members _).mp there)]
  exact before

theorem repeated (first : FirstOccurrences assigned targets) (listed : ordinal ∈ targets) :
    FirstOccurrences (assigned ++ [ordinal]) targets where
  members := by
    intro other
    rw [first.members, List.mem_append, List.mem_singleton]
    refine (or_iff_left_of_imp ?_).symm
    rintro rfl
    exact (first.members _).mp listed
  once := first.once
  ordered := first.ordered_append _

theorem fresh (first : FirstOccurrences assigned targets) (unlisted : ordinal ∉ targets) :
    FirstOccurrences (assigned ++ [ordinal]) (targets ++ [ordinal]) where
  members := by
    intro other
    rw [List.mem_append, List.mem_append, first.members]
  once := by
    refine List.nodup_append.mpr ⟨first.once, List.nodup_singleton _, ?_⟩
    rintro other listed last added rfl
    exact unlisted (List.mem_singleton.mp added ▸ listed)
  ordered := by
    refine List.pairwise_append.mpr ⟨first.ordered_append _, List.pairwise_singleton _ _, ?_⟩
    intro earlier member later last
    rw [List.mem_singleton] at last
    subst last
    have inside := (first.members _).mp member
    have outside := (first.members _).not.mp unlisted
    rw [List.idxOf_append_of_mem inside, List.idxOf_append_of_notMem outside]
    exact Nat.lt_add_right _ (List.idxOf_lt_length_of_mem inside)

theorem unique {others : List Nat} (first : FirstOccurrences assigned targets)
    (second : FirstOccurrences assigned others) : targets = others := by
  have same : targets.Perm others := (List.perm_ext_iff_of_nodup first.once second.once).mpr
    fun ordinal => (first.members ordinal).trans (second.members ordinal).symm
  refine same.eq_of_pairwise ?_ first.ordered second.ordered
  intro earlier later _ _ before after
  exact absurd before (Nat.lt_asymm after)

end FirstOccurrences

namespace WritePlan

private theorem assignedTargets_eq_ok {seen listed rest targets : List Nat}
    (first : FirstOccurrences seen listed) (success : assignedTargets listed rest = .ok targets) :
    FirstOccurrences (seen ++ rest) targets := by
  induction rest generalizing seen listed with
  | nil =>
      cases success
      rw [List.append_nil]
      exact first
  | cons ordinal rest ih =>
      rw [assignedTargets] at success
      rw [← List.singleton_append, ← List.append_assoc]
      split at success
      · cases success
      · split at success
        · rename_i listed
          exact ih (first.repeated (List.contains_iff_mem.mp listed)) success
        · rename_i unlisted
          exact ih (first.fresh (mt List.contains_iff_mem.mpr unlisted)) success

theorem exists_assignedTargets_iff {listed rest : List Nat} :
    (∃ targets, assignedTargets listed rest = .ok targets) ↔ 0 ∉ rest := by
  induction rest generalizing listed with
  | nil => exact iff_of_true ⟨_, rfl⟩ List.not_mem_nil
  | cons ordinal rest ih =>
      rw [assignedTargets, List.mem_cons, not_or]
      by_cases zero : ordinal = 0
      · subst zero
        simp
      · rw [if_neg zero]
        split <;> rw [ih] <;> simp [Ne.symm zero]

theorem assignedTargets_eq_ok_iff {assigned targets : List Nat} :
    assignedTargets [] assigned = .ok targets ↔
      0 ∉ assigned ∧ FirstOccurrences assigned targets := by
  constructor
  · intro success
    exact ⟨exists_assignedTargets_iff.mp ⟨_, success⟩, assignedTargets_eq_ok .nil success⟩
  · rintro ⟨nonzero, first⟩
    obtain ⟨others, success⟩ := exists_assignedTargets_iff.mpr nonzero
    rw [success, first.unique (assignedTargets_eq_ok .nil success)]

/-!
## Requests
-/

/-- The requests that a relation permits. Only an insert may have a conflict action, but not the
one that updates. An update assigns live columns, at least one, and like a delete needs a key. -/
inductive Permitted (relation : Relation) (assigned : List Nat) :
    WriteOperation → Option ConflictAction → Prop where
  | insert {conflict : Option ConflictAction} :
      conflict ≠ some .doUpdate → Permitted relation assigned .insert conflict
  | update : assigned ≠ [] → (∀ ordinal ∈ assigned, ordinal ≠ 0 ∧ relation.IsLive ordinal) →
      relation.NamesKey → Permitted relation assigned .update none
  | delete : relation.NamesKey → Permitted relation assigned .delete none

inductive Answers (relation : Relation) (assigned : List Nat) :
    WriteOperation → Option ConflictAction → WritePlan → Prop where
  | insert {conflict : Option ConflictAction} {targets : List Nat} {columns : List Column} :
      conflict ≠ some .doUpdate → targets.Pairwise (· < ·) →
      (∀ ordinal, ordinal ∈ targets ↔ relation.IsLive ordinal) → relation.Live targets columns →
      Answers relation assigned .insert conflict {
        operation := .insert
        sql := (Sql.Statement.insert relation.tableName (columns.map Column.remoteName)
          conflict.isSome).text
        targets
        key := none
        consistency := relation.options.writeConsistency }
  | update {targets : List Nat} {columns : List Column} {key : Column} :
      assigned ≠ [] → FirstOccurrences assigned targets → relation.Live targets columns →
      relation.IsKey key →
      Answers relation assigned .update none {
        operation := .update
        sql := (Sql.Statement.update relation.tableName (columns.map Column.remoteName)
          key.remoteName).text
        targets
        key := some ⟨key.ordinal, key.name, key.columnType⟩
        consistency := relation.options.writeConsistency }
  | delete {key : Column} :
      relation.IsKey key →
      Answers relation assigned .delete none {
        operation := .delete
        sql := (Sql.Statement.delete relation.tableName key.remoteName).text
        targets := []
        key := some ⟨key.ordinal, key.name, key.columnType⟩
        consistency := relation.options.writeConsistency }

variable {relation : Relation} {plan : WritePlan} {assigned : List Nat}
  {operation : WriteOperation} {conflict : Option ConflictAction}

theorem ofRequest_insert_iff :
    ofRequest relation .insert assigned conflict = .ok plan ↔
      Answers relation assigned .insert conflict plan := by
  have shape : ofRequest relation .insert assigned conflict =
      insert relation (relation.liveColumns.map Column.ordinal) conflict := by
    cases conflict <;> rfl
  rw [shape, insert_eq_ok_iff]
  constructor
  · rintro ⟨allowed, columns, live, rfl⟩
    exact .insert allowed Relation.liveOrdinals_ascending
      (fun ordinal => Relation.isLive_iff_mem.symm) live
  · intro answers
    cases answers with
    | insert allowed ascending members live =>
        have all := ascending.eq_of_mem_iff Relation.liveOrdinals_ascending fun ordinal =>
          (members ordinal).trans Relation.isLive_iff_mem
        subst all
        exact ⟨allowed, _, live, rfl⟩

theorem ofRequest_update_iff :
    ofRequest relation .update assigned conflict = .ok plan ↔
      Answers relation assigned .update conflict plan := by
  cases conflict with
  | some action => exact iff_of_false nofun nofun
  | none =>
      have shape : ofRequest relation .update assigned none =
          assignedTargets [] assigned >>= update relation := rfl
      simp only [shape, Attempt.bind_eq_ok_iff, assignedTargets_eq_ok_iff, update_eq_ok_iff]
      constructor
      · rintro ⟨targets, ⟨_, first⟩, filled, columns, key, live, isKey, rfl⟩
        refine .update ?_ first live isKey
        rintro rfl
        exact filled (first.unique .nil)
      · intro answers
        cases answers with
        | update filled first live isKey =>
            refine ⟨_, ⟨?_, first⟩, ?_, _, _, live, isKey, rfl⟩
            · intro zero
              have system := Relation.exists_live_iff.mp ⟨_, live⟩ 0 ((first.members 0).mpr zero)
              exact Relation.not_isLive_iff.mpr (.inl rfl) system
            · rintro rfl
              obtain ⟨ordinal, member⟩ := List.exists_mem_of_ne_nil _ filled
              exact List.not_mem_nil ((first.members ordinal).mpr member)

theorem ofRequest_delete_iff :
    ofRequest relation .delete assigned conflict = .ok plan ↔
      Answers relation assigned .delete conflict plan := by
  cases conflict with
  | some action => exact iff_of_false nofun nofun
  | none =>
      have shape : ofRequest relation .delete assigned none = delete relation := rfl
      rw [shape, delete_eq_ok_iff]
      constructor
      · rintro ⟨key, isKey, rfl⟩
        exact .delete isKey
      · intro answers
        cases answers with
        | delete isKey => exact ⟨_, isKey, rfl⟩

theorem exists_answers_iff :
    (∃ plan, Answers relation assigned operation conflict plan) ↔
      Permitted relation assigned operation conflict := by
  constructor
  · rintro ⟨plan, answers⟩
    cases answers with
    | insert allowed => exact .insert allowed
    | update filled first live isKey =>
        refine .update filled ?_ (Relation.namesKey_iff.mpr ⟨_, isKey⟩)
        intro ordinal member
        have found := Relation.exists_live_iff.mp ⟨_, live⟩ ordinal ((first.members ordinal).mpr member)
        refine ⟨?_, found⟩
        rintro rfl
        exact Relation.not_isLive_iff.mpr (.inl rfl) found
    | delete isKey => exact .delete (Relation.namesKey_iff.mpr ⟨_, isKey⟩)
  · intro permitted
    cases permitted with
    | insert allowed =>
        have members : ∀ ordinal, ordinal ∈ relation.liveColumns.map Column.ordinal ↔
            relation.IsLive ordinal := fun _ => Relation.isLive_iff_mem.symm
        obtain ⟨columns, live⟩ := Relation.exists_live_iff.mpr fun ordinal => (members ordinal).mp
        exact ⟨_, .insert allowed Relation.liveOrdinals_ascending members live⟩
    | update filled assignable named =>
        obtain ⟨key, isKey⟩ := Relation.namesKey_iff.mp named
        obtain ⟨targets, success⟩ := exists_assignedTargets_iff.mpr
          fun zero => (assignable 0 zero).1 rfl
        obtain ⟨_, first⟩ := assignedTargets_eq_ok_iff.mp success
        obtain ⟨columns, live⟩ := Relation.exists_live_iff.mpr fun ordinal member =>
          (assignable ordinal ((first.members ordinal).mp member)).2
        exact ⟨_, .update filled first live isKey⟩
    | delete named =>
        obtain ⟨key, isKey⟩ := Relation.namesKey_iff.mp named
        exact ⟨_, .delete isKey⟩

/-- Exactly the permitted requests have a plan. It writes all live columns for an insert, the
assigned ones in the order of their first occurrence for an update, and the two that need a key
address the row by the first live column with its name. -/
theorem planned_iff_permitted (relation : Relation) (operation : WriteOperation)
    (assigned : List Nat) (conflict : Option ConflictAction) :
    ((∃ plan, ofRequest relation operation assigned conflict = .ok plan) ↔
      Permitted relation assigned operation conflict) ∧
    ∀ plan, ofRequest relation operation assigned conflict = .ok plan ↔
      Answers relation assigned operation conflict plan := by
  have answered : ∀ plan, ofRequest relation operation assigned conflict = .ok plan ↔
      Answers relation assigned operation conflict plan := by
    intro plan
    cases operation with
    | insert => exact ofRequest_insert_iff
    | update => exact ofRequest_update_iff
    | delete => exact ofRequest_delete_iff
  refine ⟨?_, answered⟩
  rw [← exists_answers_iff]
  exact exists_congr answered

/-- Stock with a dropped column, and with a key that has another name in the store. -/
def stock : Relation where
  schema := "shop"
  name := "stock"
  columns := [{ ordinal := 1, name := "amount", columnType := .integer },
    { ordinal := 2, name := "shelf", columnType := .text, dropped := true },
    { ordinal := 3, name := "item", columnType := .text,
      options := { columnName := some "itemId" } },
    { ordinal := 4, name := "shelf", columnType := .text }]
  dense := ⟨rfl, rfl, rfl, rfl, trivial⟩
  options := { primaryKey := some "item", writeConsistency := .quorum }

def stockUpdate : WritePlan where
  operation := .update
  sql := "UPDATE shop.stock SET shelf = ?, amount = ? WHERE \"itemId\" = ?"
  targets := [4, 1]
  key := some ⟨3, "item", .text⟩
  consistency := .quorum

theorem planned_iff_permitted_stock :
    ofRequest stock .update [4, 1, 4] none = .ok stockUpdate ∧
      Answers stock [4, 1, 4] .update none stockUpdate ∧
      (¬∃ plan, ofRequest stock .update [4, 2] none = .ok plan) ∧
      (¬∃ plan, ofRequest stock .insert [] (some .doUpdate) = .ok plan) ∧
      ¬∃ plan, ofRequest stock .delete [] (some .doNothing) = .ok plan := by
  have planned : ofRequest stock .update [4, 1, 4] none = .ok stockUpdate := by decide
  have answered := ((planned_iff_permitted stock .update [4, 1, 4] none).2 _).mp planned
  refine ⟨planned, answered, ?_, ?_, ?_⟩
  · rw [(planned_iff_permitted stock .update [4, 2] none).1]
    rintro (_ | ⟨_, assignable, _⟩)
    obtain ⟨column, listed, kept, second⟩ := (assignable 2 (by decide)).2
    revert column
    decide
  · rw [(planned_iff_permitted stock .insert [] (some .doUpdate)).1]
    rintro ⟨allowed⟩
    exact allowed rfl
  · rw [(planned_iff_permitted stock .delete [] (some .doNothing)).1]
    exact nofun

end WritePlan

end ForeignTable
