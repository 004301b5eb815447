import ForeignTable.Proofs.Text.Hex
import ForeignTable.Uuid

/-! The hyphenated text of an identifier reads back as the identifier. -/

set_option autoImplicit false

namespace ForeignTable.Uuid

variable {front back : List Char} {count : Nat}

private theorem getElem?_mark (size : front.length = count) :
    (front ++ '-' :: back)[count]? = some '-' := by
  rw [List.getElem?_append_right (Nat.le_of_eq size), size, Nat.sub_self]
  rfl

private theorem getElem?_behind (size : front.length = count) (index : Nat) :
    (front ++ '-' :: back)[count + (index + 1)]? = back[index]? := by
  rw [List.getElem?_append_right (by omega), size, Nat.add_sub_cancel_left]
  rfl

private theorem drop_behind (size : front.length = count) (index : Nat) :
    (front ++ '-' :: back).drop (count + (index + 1)) = back.drop index := by
  rw [← size, List.drop_length_add_append]
  rfl

/-- Parts of the right sizes are found between their hyphens. -/
theorem ofHyphenated?_append {first second third fourth fifth : List Char}
    (eight : first.length = 8) (four : second.length = 4) (again : third.length = 4)
    (last : fourth.length = 4) (twelve : fifth.length = 12) :
    ofHyphenated? (first ++ '-' :: (second ++ '-' :: (third ++ '-' :: (fourth ++ '-' :: fifth)))) =
      ofDigits? (first ++ second ++ third ++ fourth ++ fifth) := by
  generalize shape : first ++ '-' ::
    (second ++ '-' :: (third ++ '-' :: (fourth ++ '-' :: fifth))) = whole
  have size : whole.length = 36 := by
    simp [← shape, eight, four, again, last, twelve]
  have marks : whole[8]? = some '-' ∧ whole[13]? = some '-' ∧ whole[18]? = some '-' ∧
      whole[23]? = some '-' := by
    rw [← shape]
    refine ⟨getElem?_mark eight, ?_, ?_, ?_⟩
    · exact (getElem?_behind eight 4).trans (getElem?_mark four)
    · exact (getElem?_behind eight 9).trans ((getElem?_behind four 4).trans (getElem?_mark again))
    · exact (getElem?_behind eight 14).trans ((getElem?_behind four 9).trans
        ((getElem?_behind again 4).trans (getElem?_mark last)))
  have parts : whole.take 8 = first ∧ (whole.drop 9).take 4 = second ∧
      (whole.drop 14).take 4 = third ∧ (whole.drop 19).take 4 = fourth ∧
      whole.drop 24 = fifth := by
    rw [← shape]
    refine ⟨List.take_left' eight, ?_, ?_, ?_, ?_⟩
    · exact (congrArg (List.take 4) (drop_behind eight 0)).trans (List.take_left' four)
    · exact (congrArg (List.take 4) ((drop_behind eight 5).trans (drop_behind four 0))).trans
        (List.take_left' again)
    · exact (congrArg (List.take 4) ((drop_behind eight 10).trans ((drop_behind four 5).trans
        (drop_behind again 0)))).trans (List.take_left' last)
    · exact (drop_behind eight 15).trans ((drop_behind four 10).trans
        ((drop_behind again 5).trans (drop_behind last 0)))
  unfold ofHyphenated?
  simp only [size, marks, parts, beq_self_eq_true, Bool.and_self, if_true]

theorem text_eq (uuid : Uuid) :
    uuid.text = Text.hexText (uuid.bytes.take 4) ++
      '-' :: (Text.hexText ((uuid.bytes.drop 4).take 2) ++
        '-' :: (Text.hexText ((uuid.bytes.drop 6).take 2) ++
          '-' :: (Text.hexText ((uuid.bytes.drop 8).take 2) ++
            '-' :: Text.hexText (uuid.bytes.drop 10)))) := by
  simp only [text, List.append_assoc, List.cons_append]

private theorem digits_eq (uuid : Uuid) :
    Text.hexText (uuid.bytes.take 4) ++ Text.hexText ((uuid.bytes.drop 4).take 2) ++
      Text.hexText ((uuid.bytes.drop 6).take 2) ++ Text.hexText ((uuid.bytes.drop 8).take 2) ++
        Text.hexText (uuid.bytes.drop 10) = Text.hexText uuid.bytes := by
  have pair : ∀ count, (uuid.bytes.drop count).take 2 ++ uuid.bytes.drop (count + 2) =
      uuid.bytes.drop count := by
    intro count
    rw [← List.drop_drop]
    exact List.take_append_drop 2 _
  simp only [← Text.hexText_append, List.append_assoc]
  rw [pair 8, pair 6, pair 4, List.take_append_drop]

theorem mem_text {uuid : Uuid} {c : Char} (member : c ∈ uuid.text) :
    c = '-' ∨ (Text.hexDigit? c).isSome = true := by
  rw [text_eq] at member
  simp only [List.mem_append, List.mem_cons] at member
  rcases member with digit | mark | digit | mark | digit | mark | digit | mark | digit
  · exact .inr (Text.hexDigit?_of_mem_hexText digit)
  · exact .inl mark
  · exact .inr (Text.hexDigit?_of_mem_hexText digit)
  · exact .inl mark
  · exact .inr (Text.hexDigit?_of_mem_hexText digit)
  · exact .inl mark
  · exact .inr (Text.hexDigit?_of_mem_hexText digit)
  · exact .inl mark
  · exact .inr (Text.hexDigit?_of_mem_hexText digit)

private theorem ofDigits?_hexText (uuid : Uuid) :
    ofDigits? (Text.hexText uuid.bytes) = some uuid := by
  unfold ofDigits?
  simp only [Text.hexBytes?_hexText, Option.bind_eq_bind, Option.bind_some, uuid.sixteen, dite_true]

private theorem ofHyphenated?_text (uuid : Uuid) : ofHyphenated? uuid.text = some uuid := by
  have sixteen := uuid.sixteen
  rw [text_eq, ofHyphenated?_append, digits_eq, ofDigits?_hexText]
  all_goals
    rw [Text.length_hexText]
    simp [sixteen]

/-- The text starts with a digit and is longer than the plain form, so none of the other forms
is tried. -/
theorem ofText?_text (uuid : Uuid) : ofText? uuid.text = some uuid := by
  have long : uuid.text.length = 36 := by
    have sixteen := uuid.sixteen
    rw [text_eq]
    simp [Text.length_hexText, sixteen]
  unfold ofText?
  split
  · rename_i rest same
    have first : '\x7b' ∈ uuid.text := by
      rw [same]
      exact List.mem_cons_self
    rcases mem_text first with impossible | impossible <;> cases impossible
  · rename_i rest same
    have first : 'u' ∈ uuid.text := by
      rw [same]
      exact List.mem_cons_self
    rcases mem_text first with impossible | impossible <;> cases impossible
  · rw [long]
    exact ofHyphenated?_text uuid

end ForeignTable.Uuid
