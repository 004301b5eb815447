/-!
# Splitting at a separator

Readers take a text apart at the first occurrence of a separator, or at every one.
-/

set_option autoImplicit false

namespace ForeignTable.Text

/-- What stands before and after the first occurrence of `separator`. -/
def splitOnce (separator : Char) : List Char → Option (List Char × List Char)
  | [] => none
  | c :: rest =>
      if c = separator then some ([], rest)
      else (splitOnce separator rest).map fun (before, after) => (c :: before, after)

/-- The parts between the occurrences of `separator`, one more than there are
occurrences. -/
def fields (separator : Char) : List Char → List (List Char)
  | [] => [[]]
  | c :: rest =>
      if c = separator then [] :: fields separator rest
      else
        match fields separator rest with
        | [] => [[c]]
        | first :: others => (c :: first) :: others

theorem splitOnce_eq_some {separator : Char} {text before after : List Char}
    (found : splitOnce separator text = some (before, after)) :
    text = before ++ separator :: after ∧ separator ∉ before := by
  induction text generalizing before with
  | nil => simp [splitOnce] at found
  | cons c rest ih =>
      unfold splitOnce at found
      split at found
      · rename_i same
        cases found
        simp [same]
      · rename_i other
        obtain ⟨⟨left, right⟩, inner, paired⟩ := Option.map_eq_some_iff.mp found
        cases paired
        obtain ⟨whole, absent⟩ := ih inner
        refine ⟨by simp [whole], ?_⟩
        simp only [List.mem_cons, not_or]
        exact ⟨fun same => other same.symm, absent⟩

theorem splitOnce_eq_none_iff {separator : Char} {text : List Char} :
    splitOnce separator text = none ↔ separator ∉ text := by
  induction text with
  | nil => simp [splitOnce]
  | cons c rest ih =>
      unfold splitOnce
      split
      · rename_i same
        simp [same]
      · rename_i other
        simp only [Option.map_eq_none_iff, ih, List.mem_cons, not_or]
        exact ⟨fun absent => ⟨fun same => other same.symm, absent⟩, fun both => both.2⟩

end ForeignTable.Text
