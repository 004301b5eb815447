import ForeignTable.Text.Blank
import ForeignTable.Text.Split

/-! Texts taken apart. Trimming keeps a text whose ends are not blank, and splitting finds the
parts that were put together around a separator that none of them has. -/

set_option autoImplicit false

namespace ForeignTable.Text

theorem stops_dropWhile (holds : Char → Bool) (text : List Char) :
    ∀ c ∈ (text.dropWhile holds).head?, holds c = false := by
  intro c here
  have stopped := List.head?_dropWhile_not holds text
  rw [here] at stopped
  exact stopped

/-!
## Ends of a text
-/

theorem trimStart_eq_self {text : List Char} (first : ∀ c ∈ text.head?, isBlank c = false) :
    trimStart text = text := by
  cases text with
  | nil => rfl
  | cons c rest =>
      apply List.dropWhile_cons_of_neg
      simp [first c rfl]

theorem trimEnd_eq_self {text : List Char} (last : ∀ c ∈ text.getLast?, isBlank c = false) :
    trimEnd text = text := by
  have reversed : trimStart text.reverse = text.reverse := by
    apply trimStart_eq_self
    intro c here
    rw [List.head?_reverse] at here
    exact last c here
  unfold trimStart at reversed
  rw [trimEnd, reversed, List.reverse_reverse]

theorem trim_eq_self {text : List Char} (first : ∀ c ∈ text.head?, isBlank c = false)
    (last : ∀ c ∈ text.getLast?, isBlank c = false) : trim text = text := by
  rw [trim, trimStart_eq_self first, trimEnd_eq_self last]

theorem trim_of_unblank {text : List Char} (clean : ∀ c ∈ text, isBlank c = false) :
    trim text = text := by
  apply trim_eq_self
  · intro c here
    exact clean c (List.mem_of_mem_head? here)
  · intro c here
    exact clean c (List.mem_of_mem_getLast? here)

theorem exists_trim (text : List Char) : ∃ before after, text = before ++ trim text ++ after ∧
    ∀ c ∈ before ++ after, isBlank c = true := by
  refine ⟨text.takeWhile isBlank, ((trimStart text).reverse.takeWhile isBlank).reverse, ?_, ?_⟩
  · rw [trim, trimEnd, List.append_assoc, ← List.reverse_append,
      List.takeWhile_append_dropWhile, List.reverse_reverse, trimStart,
      List.takeWhile_append_dropWhile]
  · intro c member
    cases List.mem_append.mp member with
    | inl leading => exact List.all_eq_true.mp List.all_takeWhile c leading
    | inr trailing =>
        exact List.all_eq_true.mp List.all_takeWhile c (List.mem_reverse.mp trailing)

theorem trimStart_append {front : List Char} (filled : trimStart front ≠ []) (back : List Char) :
    trimStart (front ++ back) = trimStart front ++ back := by
  unfold trimStart at filled ⊢
  rw [List.dropWhile_append, if_neg]
  simpa using filled

theorem trimStart_of_blank {gap : List Char} (blank : ∀ c ∈ gap, isBlank c = true)
    (text : List Char) : trimStart (gap ++ text) = trimStart text :=
  List.dropWhile_append_of_pos blank

theorem trimEnd_append {back : List Char} (filled : trimEnd back ≠ []) (front : List Char) :
    trimEnd (front ++ back) = front ++ trimEnd back := by
  have reversed : trimStart back.reverse ≠ [] := by
    intro empty
    exact filled (List.reverse_eq_nil_iff.mpr empty)
  have started := trimStart_append reversed front.reverse
  unfold trimStart at started
  rw [trimEnd, trimEnd, List.reverse_append, started, List.reverse_append, List.reverse_reverse]

private theorem trimEnd_of_blank {gap : List Char} (blank : ∀ c ∈ gap, isBlank c = true)
    (text : List Char) : trimEnd (text ++ gap) = trimEnd text := by
  rw [trimEnd, trimEnd, List.reverse_append, List.dropWhile_append_of_pos]
  intro c member
  exact blank c (List.mem_reverse.mp member)

theorem trimEnd_cons {c : Char} (unblank : isBlank c = false) (rest : List Char) :
    trimEnd (c :: rest) = c :: trimEnd rest := by
  have kept : List.dropWhile isBlank [c] = [c] := List.dropWhile_cons_of_neg (by simp [unblank])
  rw [trimEnd, trimEnd, List.reverse_cons, List.dropWhile_append, kept]
  split
  · rename_i empty
    rw [List.isEmpty_iff.mp empty]
    rfl
  · rw [List.reverse_append]
    rfl

private theorem unblank_getLast?_trimEnd (text : List Char) :
    ∀ c ∈ (trimEnd text).getLast?, isBlank c = false := by
  intro c here
  rw [trimEnd, List.getLast?_reverse] at here
  exact stops_dropWhile isBlank text.reverse c here

theorem trimEnd_trimEnd (text : List Char) : trimEnd (trimEnd text) = trimEnd text :=
  trimEnd_eq_self (unblank_getLast?_trimEnd text)

/-- Blanks around a text do not change what is left of it. -/
theorem trim_of_blank {before after : List Char} (blank : ∀ c ∈ before ++ after, isBlank c = true)
    (text : List Char) : trim (before ++ text ++ after) = trim text := by
  obtain ⟨leading, trailing⟩ := List.forall_mem_append.mp blank
  rw [List.append_assoc, trim, trimStart_of_blank leading]
  by_cases filled : trimStart text = []
  · have nothing : trimStart (text ++ after) = [] := by
      have spent := trimStart_of_blank trailing []
      rw [List.append_nil] at spent
      rw [trimStart, List.dropWhile_append, ← trimStart, filled]
      exact spent
    rw [nothing, trim, filled]
  · rw [trimStart_append filled, trimEnd_of_blank trailing, trim]

/-- A text without blanks is what is left between blanks. -/
theorem trim_between {before body after : List Char}
    (blank : ∀ c ∈ before ++ after, isBlank c = true)
    (clean : ∀ c ∈ body, isBlank c = false) : trim (before ++ body ++ after) = body := by
  rw [trim_of_blank blank, trim_of_unblank clean]

theorem trim_trim (text : List Char) : trim (trim text) = trim text := by
  obtain ⟨before, after, whole, blank⟩ := exists_trim text
  have kept := trim_of_blank blank (trim text)
  rw [← whole] at kept
  exact kept.symm

/-- A text that does not end in a blank can be trimmed at its start alone. -/
theorem trim_eq_trimStart {text : List Char} (last : ∀ c ∈ text.getLast?, isBlank c = false) :
    trim text = trimStart text := by
  apply trimEnd_eq_self
  intro c here
  apply last
  have whole : text.takeWhile isBlank ++ trimStart text = text := List.takeWhile_append_dropWhile
  rw [← whole, List.getLast?_append, here]
  rfl

private theorem blank_of_trim_eq_nil {text : List Char} (nothing : trim text = []) :
    ∀ c ∈ text, isBlank c = true := by
  obtain ⟨before, after, whole, blank⟩ := exists_trim text
  rw [nothing, List.append_nil] at whole
  rw [whole]
  exact blank

theorem trim_eq_nil_iff {text : List Char} : trim text = [] ↔ ∀ c ∈ text, isBlank c = true := by
  constructor
  · exact blank_of_trim_eq_nil
  · intro blank
    have around : ∀ c ∈ text ++ [], isBlank c = true := by
      rw [List.append_nil]
      exact blank
    have spent := trim_of_blank around []
    rw [List.append_nil, List.append_nil] at spent
    exact spent

/-- No end of a text that does not end in a blank consists of blanks. -/
theorem eq_nil_of_suffix {text last : List Char} (inside : last <:+ text)
    (unblank : ∀ c ∈ text.getLast?, isBlank c = false) (nothing : trim last = []) :
    last = [] := by
  obtain ⟨front, rfl⟩ := inside
  cases final : last.getLast? with
  | none => exact List.getLast?_eq_none_iff.mp final
  | some c =>
      have blank := blank_of_trim_eq_nil nothing c (List.mem_of_getLast? final)
      rw [unblank c (by rw [List.getLast?_append, final]; rfl)] at blank
      cases blank

theorem unblank_getLast?_append {front back : List Char}
    (clean : ∀ c ∈ front, isBlank c = false) (last : ∀ c ∈ back.getLast?, isBlank c = false) :
    ∀ c ∈ (front ++ back).getLast?, isBlank c = false := by
  intro c here
  rw [List.getLast?_append] at here
  cases final : back.getLast? with
  | some other =>
      rw [final] at here
      exact last c (final ▸ here)
  | none =>
      rw [final] at here
      exact clean c (List.mem_of_getLast? here)

/-!
## Separators
-/

theorem takeWhile_append_of_stop {holds : Char → Bool} {front back : List Char}
    (all : ∀ c ∈ front, holds c = true) (stops : ∀ c ∈ back.head?, holds c = false) :
    (front ++ back).takeWhile holds = front := by
  rw [List.takeWhile_append_of_pos all]
  cases back with
  | nil => rw [List.takeWhile_nil, List.append_nil]
  | cons c rest => rw [List.takeWhile_cons_of_neg (by simp [stops c rfl]), List.append_nil]

theorem dropWhile_append_of_stop {holds : Char → Bool} {front back : List Char}
    (all : ∀ c ∈ front, holds c = true) (stops : ∀ c ∈ back.head?, holds c = false) :
    (front ++ back).dropWhile holds = back := by
  rw [List.dropWhile_append_of_pos all]
  cases back with
  | nil => rfl
  | cons c rest => exact List.dropWhile_cons_of_neg (by simp [stops c rfl])

theorem drop_takeWhile (holds : Char → Bool) (text : List Char) :
    text.drop (text.takeWhile holds).length = text.dropWhile holds := by
  have whole : text.takeWhile holds ++ text.dropWhile holds = text :=
    List.takeWhile_append_dropWhile
  calc text.drop (text.takeWhile holds).length
      = (text.takeWhile holds ++ text.dropWhile holds).drop (text.takeWhile holds).length := by
        rw [whole]
    _ = text.dropWhile holds := List.drop_left

theorem splitOnce_append {separator : Char} {before after : List Char}
    (absent : separator ∉ before) :
    splitOnce separator (before ++ separator :: after) = some (before, after) := by
  induction before with
  | nil => simp [splitOnce]
  | cons c rest ih =>
      obtain ⟨other, others⟩ := not_or.mp (mt List.mem_cons.mpr absent)
      simp [splitOnce, Ne.symm other, ih others]

theorem fields_of_absent {separator : Char} {text : List Char} (absent : separator ∉ text) :
    fields separator text = [text] := by
  induction text with
  | nil => rfl
  | cons c rest ih =>
      obtain ⟨other, others⟩ := not_or.mp (mt List.mem_cons.mpr absent)
      simp [fields, Ne.symm other, ih others]

theorem fields_append {separator : Char} {before : List Char} (absent : separator ∉ before)
    (after : List Char) :
    fields separator (before ++ separator :: after) = before :: fields separator after := by
  induction before with
  | nil => simp [fields]
  | cons c rest ih =>
      obtain ⟨other, others⟩ := not_or.mp (mt List.mem_cons.mpr absent)
      simp [fields, Ne.symm other, ih others]

theorem exists_field_of_mem {separator c : Char} {text : List Char} (member : c ∈ text)
    (other : c ≠ separator) : ∃ field ∈ fields separator text, c ∈ field := by
  induction text with
  | nil => cases member
  | cons d rest ih =>
      unfold fields
      split
      · rename_i same
        rcases List.mem_cons.mp member with here | later
        · exact absurd (here.trans same) other
        · obtain ⟨field, found, inside⟩ := ih later
          exact ⟨field, List.mem_cons_of_mem _ found, inside⟩
      · cases parts : fields separator rest with
        | nil =>
            rcases List.mem_cons.mp member with here | later
            · exact ⟨[d], List.mem_cons_self, List.mem_singleton.mpr here⟩
            · obtain ⟨field, found, _⟩ := ih later
              rw [parts] at found
              cases found
        | cons first others =>
            rcases List.mem_cons.mp member with here | later
            · exact ⟨d :: first, List.mem_cons_self, here ▸ List.mem_cons_self⟩
            · obtain ⟨field, found, inside⟩ := ih later
              rw [parts] at found
              rcases List.mem_cons.mp found with same | behind
              · exact ⟨d :: first, List.mem_cons_self, List.mem_cons_of_mem _ (same ▸ inside)⟩
              · exact ⟨field, List.mem_cons_of_mem _ behind, inside⟩

/-!
## Parts read one by one
-/

theorem mapM_map_of_reads {Item : Type} {form : Item → List Char} {read : List Char → Option Item}
    (reads : ∀ item, read (form item) = some item) (items : List Item) :
    (items.map form).mapM read = some items := by
  have exact : read ∘ form = fun item => pure item := funext reads
  rw [List.mapM_map, exact, List.mapM_pure, List.map_id']
  rfl

end ForeignTable.Text
