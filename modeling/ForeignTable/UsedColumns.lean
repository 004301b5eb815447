/-!
# Used columns

The columns that a query reads: a set of ordinals, or the whole row. The ordinals are kept
in ascending order without repetitions.
-/

set_option autoImplicit false

namespace ForeignTable

def insertOrdinal (ordinal : Nat) : List Nat → List Nat
  | [] => [ordinal]
  | first :: rest =>
      if ordinal < first then ordinal :: first :: rest
      else if ordinal = first then first :: rest
      else first :: insertOrdinal ordinal rest

private theorem mem_insertOrdinal {ordinal other : Nat} {ordinals : List Nat} :
    other ∈ insertOrdinal ordinal ordinals ↔ other = ordinal ∨ other ∈ ordinals := by
  induction ordinals with
  | nil => simp [insertOrdinal]
  | cons first rest ih =>
      unfold insertOrdinal
      split
      · simp
      · split
        · rename_i same
          subst same
          simp
        · simp only [List.mem_cons, ih]
          constructor
          · rintro (here | there | behind)
            · exact .inr (.inl here)
            · exact .inl there
            · exact .inr (.inr behind)
          · rintro (there | here | behind)
            · exact .inr (.inl there)
            · exact .inl here
            · exact .inr (.inr behind)

private theorem pairwise_insertOrdinal {ordinal : Nat} {ordinals : List Nat}
    (ascending : ordinals.Pairwise (· < ·)) :
    (insertOrdinal ordinal ordinals).Pairwise (· < ·) := by
  induction ordinals with
  | nil => simp [insertOrdinal]
  | cons first rest ih =>
      obtain ⟨above, tail⟩ := List.pairwise_cons.mp ascending
      unfold insertOrdinal
      split
      · rename_i less
        refine List.pairwise_cons.mpr ⟨?_, ascending⟩
        intro other member
        rcases List.mem_cons.mp member with same | behind
        · omega
        · have := above other behind
          omega
      · split
        · exact ascending
        · refine List.pairwise_cons.mpr ⟨?_, ih tail⟩
          intro other member
          rcases mem_insertOrdinal.mp member with same | behind
          · omega
          · exact above other behind

structure UsedColumns where
  wholeRow : Bool := false
  ordinals : List Nat := []
  ascending : ordinals.Pairwise (· < ·) := by simp
deriving DecidableEq

namespace UsedColumns

def insert (used : UsedColumns) (ordinal : Nat) : UsedColumns where
  wholeRow := used.wholeRow
  ordinals := insertOrdinal ordinal used.ordinals
  ascending := pairwise_insertOrdinal used.ascending

def markWholeRow (used : UsedColumns) : UsedColumns := { used with wholeRow := true }

def ofList (ordinals : List Nat) : UsedColumns := ordinals.foldl insert {}

def everything : UsedColumns := { wholeRow := true }

def contains (used : UsedColumns) (ordinal : Nat) : Bool :=
  used.wholeRow || used.ordinals.contains ordinal

end UsedColumns

end ForeignTable
