import ForeignTable.Sql.Name

/-! Quoted texts. A reader goes on to the first quote that is not doubled, so it finds the end of
a name or a literal whatever its characters are. -/

set_option autoImplicit false

namespace ForeignTable.Sql

/-- What is quoted up to the first single mark, and what stands behind the mark. -/
def unquoted? (mark : Char) : List Char → Option (List Char × List Char)
  | [] => none
  | [c] => if c = mark then some ([], []) else none
  | c :: next :: rest =>
      if c = mark then
        if next = mark then
          (unquoted? mark rest).map fun (name, behind) => (mark :: name, behind)
        else some ([], next :: rest)
      else (unquoted? mark (next :: rest)).map fun (name, behind) => (c :: name, behind)

def quoted? (mark : Char) : List Char → Option (List Char × List Char)
  | [] => none
  | c :: rest => if c = mark then unquoted? mark rest else none

variable {mark c : Char} {name text rest behind : List Char}

private theorem unquoted?_mark (single : rest.head? ≠ some mark) :
    unquoted? mark (mark :: rest) = some ([], rest) := by
  cases rest with
  | nil => simp [unquoted?]
  | cons next rest =>
      have other : next ≠ mark := fun same => single (congrArg some same)
      simp [unquoted?, other]

private theorem unquoted?_other (other : c ≠ mark) :
    unquoted? mark (c :: rest) =
      (unquoted? mark rest).map fun (name, behind) => (c :: name, behind) := by
  cases rest with
  | nil => simp [unquoted?, other]
  | cons next rest => simp [unquoted?, other]

private theorem unquoted?_doubled (name : List Char) (single : rest.head? ≠ some mark) :
    unquoted? mark (doubled mark name ++ mark :: rest) = some (name, rest) := by
  induction name with
  | nil => exact unquoted?_mark single
  | cons c name ih =>
      by_cases same : c = mark
      · subst same
        simp [doubled, unquoted?, ih]
      · simp [doubled, same, unquoted?_other same, ih]

theorem unquoted?_eq_some_iff : unquoted? mark text = some (name, rest) ↔
    text = doubled mark name ++ mark :: rest ∧ rest.head? ≠ some mark := by
  constructor
  · intro found
    fun_induction unquoted? mark text generalizing name with
    | case1 => cases found
    | case2 =>
        cases found
        exact ⟨rfl, nofun⟩
    | case3 => cases found
    | case4 behind ih =>
        obtain ⟨⟨inner, after⟩, read, paired⟩ := Option.map_eq_some_iff.mp found
        cases paired
        obtain ⟨rfl, single⟩ := ih read
        exact ⟨by simp [doubled], single⟩
    | case5 next behind other =>
        cases found
        exact ⟨rfl, fun same => other (Option.some.inj same)⟩
    | case6 c next behind other ih =>
        obtain ⟨⟨inner, after⟩, read, paired⟩ := Option.map_eq_some_iff.mp found
        cases paired
        obtain ⟨shape, single⟩ := ih read
        exact ⟨by simp [doubled, other, shape], single⟩
  · intro ⟨shape, single⟩
    rw [shape]
    exact unquoted?_doubled name single

theorem quoted?_eq_some_iff : quoted? mark text = some (name, rest) ↔
    text = enclosed mark name ++ rest ∧ rest.head? ≠ some mark := by
  unfold enclosed
  rw [List.cons_append, List.append_assoc, List.singleton_append]
  cases text with
  | nil => simp [quoted?]
  | cons c text =>
      by_cases same : c = mark
      · simp [quoted?, same, unquoted?_eq_some_iff]
      · simp [quoted?, same]

end ForeignTable.Sql
