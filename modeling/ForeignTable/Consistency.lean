import ForeignTable.Error

/-!
# Consistency levels

How many replicas have to answer a statement. The level `ANY` means that a hinted write is
enough, so it is no level for reads.
-/

set_option autoImplicit false

namespace ForeignTable

inductive Consistency where
  | any
  | one
  | two
  | three
  | quorum
  | all
  | localQuorum
  | eachQuorum
  | serial
  | localSerial
  | localOne
deriving DecidableEq

namespace Consistency

/-- The level of a table that does not set one. -/
def standard : Consistency := localOne

def levels : List Consistency :=
  [any, one, two, three, quorum, all, localQuorum, eachQuorum, serial, localSerial, localOne]

theorem mem_levels (level : Consistency) : level ∈ levels := by
  cases level <;> decide

def name : Consistency → String
  | any => "ANY"
  | one => "ONE"
  | two => "TWO"
  | three => "THREE"
  | quorum => "QUORUM"
  | all => "ALL"
  | localQuorum => "LOCAL_QUORUM"
  | eachQuorum => "EACH_QUORUM"
  | serial => "SERIAL"
  | localSerial => "LOCAL_SERIAL"
  | localOne => "LOCAL_ONE"

def ofName? (name : String) : Option Consistency := levels.find? fun level => level.name == name

@[simp] theorem ofName?_name (level : Consistency) : ofName? level.name = some level := by
  cases level <;> decide

theorem ofName?_eq_some_iff {text : String} {level : Consistency} :
    ofName? text = some level ↔ level.name = text := by
  constructor
  · intro found
    simpa using List.find?_some found
  · intro same
    subst same
    simp

def ofName (use : LevelUse) (name : String) : Except Error Consistency :=
  match ofName? name with
  | none => .error (.configuration (.unknownLevel use name))
  | some level =>
      if use = .reading ∧ level = any then .error (.configuration .readLevelAny)
      else .ok level

end Consistency

end ForeignTable
