import ForeignTable.Proofs.Exchange.Scalar

/-! Length limits of the character types. A text is too long exactly when something other than
spaces stands behind the limit, and what a limited type has once accepted it accepts unchanged. -/

set_option autoImplicit false

namespace ForeignTable.Datum

/-- From a position on the text has spaces only. -/
def SpacesFrom (position : Nat) (text : List Char) : Prop :=
  ∀ index c, position ≤ index → text[index]? = some c → c = ' '

variable {limit : Nat}

theorem all_drop_iff {text : List Char} :
    (text.drop limit).all (· == ' ') = true ↔ SpacesFrom limit text := by
  rw [List.all_eq_true]
  constructor
  · intro spaces index c behind here
    have member : c ∈ text.drop limit := by
      apply List.mem_iff_getElem?.mpr
      refine ⟨index - limit, ?_⟩
      rw [List.getElem?_drop, Nat.add_sub_cancel' behind]
      exact here
    exact beq_iff_eq.mp (spaces c member)
  · intro spaces c member
    obtain ⟨place, here⟩ := List.mem_iff_getElem?.mp member
    rw [List.getElem?_drop] at here
    exact beq_iff_eq.mpr (spaces _ c (Nat.le_add_right limit place) here)

theorem limited?_eq_some_iff {text kept : List Char} :
    limited? (some limit) text = some kept ↔ SpacesFrom limit text ∧ kept = text.take limit := by
  rw [← all_drop_iff, limited?]
  split
  · rename_i spaces
    simp only [Option.some.injEq, spaces, true_and]
    exact eq_comm
  · rename_i long
    simp only [reduceCtorEq, long, false_and]

theorem limited?_eq_none_iff {text : List Char} :
    limited? (some limit) text = none ↔ ¬SpacesFrom limit text := by
  rw [← all_drop_iff, limited?]
  split
  · rename_i spaces
    simp only [reduceCtorEq, spaces, not_true]
  · rename_i long
    simp only [long, Bool.false_eq_true, not_false_eq_true]

private theorem length_take_le (text : List Char) : (text.take limit).length ≤ limit := by
  rw [List.length_take]
  exact Nat.min_le_left limit text.length

/-- Spaces behind a text that is not too long fill it up to the limit in one way only. -/
theorem eq_padded_iff {text filled : List Char} (within : text.length ≤ limit) :
    filled = padded (some limit) text ↔
      filled.length = limit ∧ ∃ count, filled = text ++ List.replicate count ' ' := by
  constructor
  · intro same
    subst same
    refine ⟨?_, limit - text.length, rfl⟩
    rw [padded, List.length_append, List.length_replicate]
    exact Nat.add_sub_cancel' within
  · intro filling
    obtain ⟨sized, count, shape⟩ := filling
    have lengths := congrArg List.length shape
    rw [sized, List.length_append, List.length_replicate] at lengths
    have missing : count = limit - text.length := by omega
    rw [shape, missing]
    rfl

/-!
## Conversion
-/

inductive Limited (limit : Nat) : ColumnType → Prop where
  | varchar : Limited limit (.varchar (some limit))
  | bpchar : Limited limit (.bpchar (some limit))

/-- What a type stores for the characters that it keeps. -/
def stored : ColumnType → List Char → List Char
  | .bpchar limit, kept => padded limit kept
  | _, kept => kept

variable {zone : Zone} {text : String} {columnType : ColumnType}

/-- Both types keep the same characters and refuse the same texts. -/
theorem Limited.ofText_eq (limited : Limited limit columnType) :
    ofText zone columnType text = ((limited? (some limit) text.toList).elim
      (.error (.invalidArgument (.tooLong columnType)))
      fun kept => .ok (.text (String.ofList (stored columnType kept)))) := by
  cases limited with
  | varchar => cases read : limited? (some limit) text.toList <;> simp [ofText, read, stored]
  | bpchar => cases read : limited? (some limit) text.toList <;> simp [ofText, read, stored]

theorem Limited.eq_ok_iff (limited : Limited limit columnType) {datum : Datum} :
    ofText zone columnType text = .ok datum ↔ SpacesFrom limit text.toList ∧
      datum = .text (String.ofList (stored columnType (text.toList.take limit))) := by
  rw [limited.ofText_eq]
  cases read : limited? (some limit) text.toList with
  | none => simp [limited?_eq_none_iff.mp read]
  | some kept =>
      obtain ⟨spaces, same⟩ := limited?_eq_some_iff.mp read
      simp [spaces, ← same, eq_comm]

theorem Limited.eq_error_iff (limited : Limited limit columnType) {failure : Error} :
    ofText zone columnType text = .error failure ↔
      ¬SpacesFrom limit text.toList ∧ failure = .invalidArgument (.tooLong columnType) := by
  rw [limited.ofText_eq]
  cases read : limited? (some limit) text.toList with
  | none => simp [limited?_eq_none_iff.mp read, eq_comm]
  | some kept => simp [(limited?_eq_some_iff.mp read).1]

private theorem varchar_of_within {value : String} (within : value.length ≤ limit) :
    ofText zone (.varchar (some limit)) value = .ok (.text value) := by
  have kept : limited? (some limit) value.toList = some value.toList := by
    apply limited?_of_within
    intro count same
    cases same
    rw [String.length_toList]
    exact within
  simp only [ofText, kept, String.ofList_toList]

private theorem bpchar_of_filled {value : String} (filled : value.length = limit) :
    ofText zone (.bpchar (some limit)) value = .ok (.text value) := by
  have sized : ∀ count ∈ some limit, value.toList.length = count := by
    intro count same
    cases same
    rw [String.length_toList]
    exact filled
  have kept : limited? (some limit) value.toList = some value.toList :=
    limited?_of_within fun count same => Nat.le_of_eq (sized count same)
  simp only [ofText, kept, padded_of_filled sized, String.ofList_toList]

private theorem length_of_varchar {value : String}
    (read : ofText zone (.varchar (some limit)) text = .ok (.text value)) :
    value.length ≤ limit := by
  obtain ⟨_, same⟩ := Limited.varchar.eq_ok_iff.mp read
  cases same
  rw [String.length_ofList]
  exact length_take_le text.toList

private theorem length_of_bpchar {value : String}
    (read : ofText zone (.bpchar (some limit)) text = .ok (.text value)) :
    value.length = limit := by
  obtain ⟨_, same⟩ := Limited.bpchar.eq_ok_iff.mp read
  cases same
  rw [String.length_ofList]
  exact ((eq_padded_iff (length_take_le text.toList)).mp rfl).1

theorem Limited.reread (limited : Limited limit columnType) {value : String}
    (read : ofText zone columnType text = .ok (.text value)) (later : Zone) :
    ofText later columnType value = .ok (.text value) := by
  cases limited with
  | varchar => exact varchar_of_within (length_of_varchar read)
  | bpchar => exact bpchar_of_filled (length_of_bpchar read)

/-- A limited text is read exactly when everything behind the limit is spaces. The varying type
keeps the characters up to the limit, the fixed one fills them up with spaces to the limit; the
result is read again as itself, and a filled one also under the varying type. -/
theorem character_limit_exact (zone : Zone) (limit : Nat) (text : String) :
    (∀ datum, ofText zone (.varchar (some limit)) text = .ok datum ↔
      SpacesFrom limit text.toList ∧
        datum = .text (String.ofList (text.toList.take (min limit text.length)))) ∧
    (∀ datum, ofText zone (.bpchar (some limit)) text = .ok datum ↔
      SpacesFrom limit text.toList ∧ ∃ filled, datum = .text (String.ofList filled) ∧
        filled.length = limit ∧ ∃ count,
          filled = text.toList.take (min limit text.length) ++ List.replicate count ' ') ∧
    (∀ columnType, Limited limit columnType → ∀ failure,
      ofText zone columnType text = .error failure ↔
        ¬SpacesFrom limit text.toList ∧ failure = .invalidArgument (.tooLong columnType)) ∧
    (∀ columnType, Limited limit columnType → ∀ value later,
      ofText zone columnType text = .ok (.text value) →
        ofText later columnType value = .ok (.text value)) ∧
    ∀ value later, ofText zone (.bpchar (some limit)) text = .ok (.text value) →
      ofText later (.varchar (some limit)) value = .ok (.text value) := by
  have cut : text.toList.take (min limit text.length) = text.toList.take limit := by
    rw [← String.length_toList, ← List.take_eq_take_min]
  rw [cut]
  refine ⟨?_, ?_, ?_, ?_, ?_⟩
  · intro datum
    exact Limited.varchar.eq_ok_iff
  · intro datum
    simp only [← eq_padded_iff (length_take_le text.toList), exists_eq_right]
    exact Limited.bpchar.eq_ok_iff
  · intro columnType limited failure
    exact limited.eq_error_iff
  · intro columnType limited value later read
    exact limited.reread read later
  · intro value later read
    exact varchar_of_within (Nat.le_of_eq (length_of_bpchar read))

/-- Characters of several bytes up to the limit and spaces across it. -/
theorem character_limit_exact_accented :
    SpacesFrom 4 "süß  ".toList ∧ ¬SpacesFrom 3 "süße".toList ∧
      ofText Zone.utc (.varchar (some 4)) "süß  " = .ok (.text "süß ") ∧
      ofText Zone.utc (.bpchar (some 6)) "süß  " = .ok (.text "süß   ") ∧
      ofText Zone.utc (.varchar (some 3)) "süße" =
        .error (.invalidArgument (.tooLong (.varchar (some 3)))) ∧
      ofText Zone.utc (.bpchar (some 6)) "süß   " = .ok (.text "süß   ") ∧
      ofText Zone.utc (.varchar (some 6)) "süß   " = .ok (.text "süß   ") := by
  have fits : SpacesFrom 4 "süß  ".toList := all_drop_iff.mp (by decide)
  have shorter : SpacesFrom 6 "süß  ".toList := all_drop_iff.mp (by decide)
  have long : ¬SpacesFrom 3 "süße".toList := mt all_drop_iff.mpr (by decide)
  obtain ⟨varying, _⟩ := character_limit_exact Zone.utc 4 "süß  "
  obtain ⟨_, fixed, _, reread, narrowed⟩ := character_limit_exact Zone.utc 6 "süß  "
  obtain ⟨_, _, refused, _⟩ := character_limit_exact Zone.utc 3 "süße"
  have filled : ofText Zone.utc (.bpchar (some 6)) "süß  " = .ok (.text "süß   ") :=
    (fixed _).mpr ⟨shorter, "süß   ".toList, rfl, rfl, 1, rfl⟩
  exact ⟨fits, long, (varying _).mpr ⟨fits, rfl⟩, filled, (refused _ .varchar _).mpr ⟨long, rfl⟩,
    reread _ .bpchar _ _ filled, narrowed _ _ filled⟩

end ForeignTable.Datum
