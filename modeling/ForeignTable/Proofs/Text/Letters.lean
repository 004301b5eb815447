import ForeignTable.Proofs.Text.Split
import ForeignTable.Text.Letters

/-! Letter case. Turning capital letters into small ones changes no other character, so it leaves
blanks and marks where they are. -/

set_option autoImplicit false

namespace ForeignTable.Text

private theorem toLower_of_no_capital {c : Char} (outside : c.toNat < 65 ∨ 90 < c.toNat) :
    c.toLower = c := by
  apply dif_neg
  intro ⟨low, high⟩
  have lowNat : 65 ≤ c.toNat := UInt32.le_iff_toNat_le.mp low
  have highNat : c.toNat ≤ 90 := UInt32.le_iff_toNat_le.mp high
  omega

/-- A test that takes the small form of each capital letter like the letter itself takes the small
form of every character like the character. -/
theorem test_toLower (test : Char → Bool)
    (capitals : ∀ code < 91, 65 ≤ code →
      test (Char.ofNat code).toLower = test (Char.ofNat code))
    (c : Char) : test c.toLower = test c := by
  by_cases outside : c.toNat < 65 ∨ 90 < c.toNat
  · rw [toLower_of_no_capital outside]
  · have letter := capitals c.toNat (by omega) (by omega)
    rw [Char.ofNat_toNat] at letter
    exact letter

theorem isBlank_toLower (c : Char) : isBlank c.toLower = isBlank c :=
  test_toLower isBlank (by decide) c

private theorem toNat_toLower {c : Char} (low : 65 ≤ c.toNat) (high : c.toNat ≤ 90) :
    c.toLower.toNat = c.toNat + 32 := by
  have all : ∀ code < 91, 65 ≤ code →
      (Char.ofNat code).toLower.toNat = (Char.ofNat code).toNat + 32 := by decide
  have moved := all c.toNat (by omega) low
  rw [Char.ofNat_toNat] at moved
  exact moved

/-- A small letter stands for itself and for its capital letter. -/
theorem toLower_eq_iff {small capital : Char} (low : 65 ≤ capital.toNat)
    (high : capital.toNat ≤ 90) (paired : capital.toLower = small) {c : Char} :
    c.toLower = small ↔ c = small ∨ c = capital := by
  have smallCode := toNat_toLower low high
  rw [paired] at smallCode
  constructor
  · intro lowered
    by_cases outside : c.toNat < 65 ∨ 90 < c.toNat
    · rw [toLower_of_no_capital outside] at lowered
      exact .inl lowered
    · have code := toNat_toLower (c := c) (by omega) (by omega)
      rw [lowered, smallCode] at code
      exact .inr (Char.toNat_inj.mp (by omega))
  · intro either
    cases either with
    | inl same =>
        subst same
        exact toLower_of_no_capital (by omega)
    | inr same =>
        subst same
        exact paired

theorem trim_lower (text : List Char) : trim (lower text) = lower (trim text) := by
  have kept : isBlank ∘ Char.toLower = isBlank := funext isBlank_toLower
  simp only [trim, trimEnd, trimStart, lower, List.dropWhile_map, ← List.map_reverse, kept]

end ForeignTable.Text
