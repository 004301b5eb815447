import ForeignTable.Proofs.Text.Letters
import ForeignTable.Proofs.Timestamp.Reading

/-! Offsets in texts. The grammar of a signed offset, and the reader of zones against it: one colon
splits hours from minutes, four digits split in the middle, other digits are hours alone. -/

set_option autoImplicit false

namespace ForeignTable

private theorem Zone.eq_of_seconds {left right : Zone} (same : left.seconds = right.seconds) :
    left = right := by
  cases left
  cases right
  cases same
  rfl

namespace Timestamp

/-!
## The grammar
-/

/-- The digits of an offset of so many hours and minutes. -/
inductive OffsetDigits : List Char → Nat → Nat → Prop where
  | joined {hourText minuteText : List Char} {hours minutes : Nat} :
      Text.natural? hourText = some hours → Text.natural? minuteText = some minutes →
      OffsetDigits (hourText ++ ':' :: minuteText) hours minutes
  | compact {hourText minuteText : List Char} {hours minutes : Nat} :
      hourText.length = 2 → minuteText.length = 2 →
      Text.natural? hourText = some hours → Text.natural? minuteText = some minutes →
      OffsetDigits (hourText ++ minuteText) hours minutes
  | hoursAlone {hourText : List Char} {hours : Nat} :
      hourText.length ≠ 4 → Text.natural? hourText = some hours → OffsetDigits hourText hours 0

def signMark (negative : Bool) : Char := if negative then '-' else '+'

theorem signMark_apart (negative : Bool) :
    Text.isBlank (signMark negative) = false ∧ isClockCharacter (signMark negative) = false ∧
      (signMark negative).isDigit = false ∧ signMark negative ≠ 'T' := by
  cases negative <;> decide

/-- The seconds east of UTC of an offset; its sign holds for hours and minutes. -/
def offsetSeconds (negative : Bool) (hours minutes : Nat) : Int :=
  (if negative then -1 else 1) * (3600 * (hours : Int) + 60 * (minutes : Int))

/-- The usual spellings of an offset behind its sign: with a colon, without, and full hours alone. -/
inductive OffsetSpelling (hours minutes : Nat) : List Char → Prop where
  | joined :
      OffsetSpelling hours minutes (Text.paddedDigits 2 hours ++ ':' :: Text.paddedDigits 2 minutes)
  | compact :
      OffsetSpelling hours minutes (Text.paddedDigits 2 hours ++ Text.paddedDigits 2 minutes)
  | fullHours : minutes = 0 → OffsetSpelling hours minutes (Text.paddedDigits 2 hours)

theorem OffsetSpelling.digits {hours minutes : Nat} {text : List Char}
    (spelling : OffsetSpelling hours minutes text) (inHours : hours ≤ 25)
    (inMinutes : minutes ≤ 59) : OffsetDigits text hours minutes := by
  have hour := Text.natural?_paddedDigits 2 hours
  have minute := Text.natural?_paddedDigits 2 minutes
  have twoHour := Text.length_paddedDigits (show 0 < 2 by decide) (show hours < 10 ^ 2 by omega)
  have twoMinute := Text.length_paddedDigits (show 0 < 2 by decide) (show minutes < 10 ^ 2 by omega)
  cases spelling with
  | joined => exact .joined hour minute
  | compact => exact .compact twoHour twoMinute hour minute
  | fullHours none =>
      subst none
      exact .hoursAlone (by omega) hour

theorem OffsetDigits.unblank {text : List Char} {hours minutes : Nat}
    (grammar : OffsetDigits text hours minutes) : ∀ c ∈ text, Text.isBlank c = false := by
  have clean : ∀ {part : List Char} {value : Nat}, Text.natural? part = some value →
      ∀ c ∈ part, Text.isBlank c = false := by
    intro part value denoted
    exact Text.isBlank_of_allDigits (Text.natural?_eq_some_iff.mp denoted).2.1
  intro c member
  cases grammar with
  | joined hour minute =>
      rcases List.mem_append.mp member with inHour | behind
      · exact clean hour c inHour
      · rcases List.mem_cons.mp behind with rfl | inMinute
        · rfl
        · exact clean minute c inMinute
  | compact _ _ hour minute =>
      rcases List.mem_append.mp member with inHour | inMinute
      · exact clean hour c inHour
      · exact clean minute c inMinute
  | hoursAlone _ hour => exact clean hour c member

private theorem colon_not_mem {text : List Char} {value : Nat}
    (denoted : Text.natural? text = some value) :
    ':' ∉ text :=
  Text.not_mem_of_allDigits (Text.natural?_eq_some_iff.mp denoted).2.1 rfl

private theorem offsetParts_append {hourText : List Char} (absent : ':' ∉ hourText)
    (minuteText : List Char) :
    offsetParts (hourText ++ ':' :: minuteText) = (hourText, minuteText) := by
  rw [offsetParts, Text.splitOnce_append absent]

private theorem offsetParts_of_absent {text : List Char} (absent : ':' ∉ text) :
    offsetParts text = if text.length = 4 then (text.take 2, text.drop 2) else (text, ['0']) := by
  rw [offsetParts, Text.splitOnce_eq_none_iff.mpr absent]
  simp only [beq_iff_eq]

theorem offsetDigits_iff {text : List Char} {hours minutes : Nat} :
    OffsetDigits text hours minutes ↔ Text.natural? (offsetParts text).1 = some hours ∧
      Text.natural? (offsetParts text).2 = some minutes := by
  constructor
  · intro grammar
    cases grammar with
    | joined hour minute =>
        rw [offsetParts_append (colon_not_mem hour)]
        exact ⟨hour, minute⟩
    | compact twoHour twoMinute hour minute =>
        have absent := List.not_mem_append (colon_not_mem hour) (colon_not_mem minute)
        have four : (_ ++ _ : List Char).length = 4 :=
          List.length_append.trans (congrArg₂ (· + ·) twoHour twoMinute)
        rw [offsetParts_of_absent absent, if_pos four, List.take_left' twoHour,
          List.drop_left' twoHour]
        exact ⟨hour, minute⟩
    | hoursAlone other hour =>
        rw [offsetParts_of_absent (colon_not_mem hour), if_neg other]
        exact ⟨hour, rfl⟩
  · intro ⟨hour, minute⟩
    cases found : Text.splitOnce ':' text with
    | some parts =>
        obtain ⟨rfl, absent⟩ := Text.splitOnce_eq_some found
        rw [offsetParts_append absent] at hour minute
        exact .joined hour minute
    | none =>
        rw [offsetParts_of_absent (Text.splitOnce_eq_none_iff.mp found)] at hour minute
        split at hour
        · rename_i four
          rw [if_pos four] at minute
          have twoHour : (text.take 2).length = 2 := by
            rw [List.length_take, four]
            rfl
          have twoMinute : (text.drop 2).length = 2 := by rw [List.length_drop, four]
          rw [← List.take_append_drop 2 text]
          exact .compact twoHour twoMinute hour minute
        · rename_i other
          rw [if_neg other] at minute
          cases minute
          exact .hoursAlone other hour

/-!
## The reader
-/

/-- Hours and minutes with one sign add up to an offset of that sign, also when the hours are
zero. -/
theorem ofHoursMinutes_signed {direction : Int} (signed : direction = 1 ∨ direction = -1)
    {hours minutes : Nat} {zone : Zone} :
    (Zone.ofHoursMinutes (direction * hours) (direction * minutes)).toOption = some zone ↔
      hours ≤ 25 ∧ minutes ≤ 59 ∧
        zone.seconds = direction * (3600 * (hours : Int) + 60 * (minutes : Int)) := by
  have aligned : 3600 * (direction * hours) +
      60 * Zone.alignMinutes (direction * hours) (direction * minutes) =
        direction * (3600 * (hours : Int) + 60 * (minutes : Int)) := by
    unfold Zone.alignMinutes
    rcases signed with rfl | rfl <;> omega
  have hourRange : (-25 ≤ direction * hours ∧ direction * hours ≤ 25) ↔ hours ≤ 25 := by
    rcases signed with rfl | rfl <;> omega
  have minuteRange : (-59 ≤ direction * minutes ∧ direction * minutes ≤ 59) ↔ minutes ≤ 59 := by
    rcases signed with rfl | rfl <;> omega
  unfold Zone.ofHoursMinutes
  split
  · rename_i inHours
    split
    · rename_i inMinutes
      rw [← aligned]
      constructor
      · intro found
        cases found
        exact ⟨hourRange.mp inHours, minuteRange.mp inMinutes, rfl⟩
      · intro ⟨_, _, counted⟩
        exact congrArg some (Zone.eq_of_seconds counted.symm)
    · rename_i outside
      constructor
      · intro found
        cases found
      · intro ⟨_, inside, _⟩
        exact absurd (minuteRange.mpr inside) outside
  · rename_i outside
    constructor
    · intro found
      cases found
    · intro ⟨inside, _, _⟩
      exact absurd (hourRange.mpr inside) outside

/-- The reader accepts exactly the offsets of the grammar whose hours and minutes are in range. -/
theorem offset?_eq_some_iff {negative : Bool} {text : List Char} {zone : Zone} :
    offset? negative text = some zone ↔ ∃ hours minutes, OffsetDigits text hours minutes ∧
      hours ≤ 25 ∧ minutes ≤ 59 ∧ zone.seconds = offsetSeconds negative hours minutes := by
  have signed : (if negative then -1 else 1 : Int) = 1 ∨ (if negative then -1 else 1 : Int) = -1 := by
    cases negative with
    | false => exact .inl rfl
    | true => exact .inr rfl
  unfold offset?
  constructor
  · intro found
    obtain ⟨hours, hour, continuation⟩ := Option.bind_eq_some_iff.mp found
    obtain ⟨minutes, minute, built⟩ := Option.bind_eq_some_iff.mp continuation
    have grammar := offsetDigits_iff.mpr
      ⟨(below?_eq_some_iff.mp hour).1, (below?_eq_some_iff.mp minute).1⟩
    exact ⟨hours, minutes, grammar, (ofHoursMinutes_signed signed).mp built⟩
  · intro ⟨hours, minutes, grammar, inHours, inMinutes, counted⟩
    obtain ⟨hour, minute⟩ := offsetDigits_iff.mp grammar
    apply Option.bind_eq_some_iff.mpr
    refine ⟨hours, below?_of_natural? hour (by omega), ?_⟩
    apply Option.bind_eq_some_iff.mpr
    refine ⟨minutes, below?_of_natural? minute (by omega), ?_⟩
    exact (ofHoursMinutes_signed signed).mpr ⟨inHours, inMinutes, counted⟩

theorem OffsetSpelling.exists_offset? {hours minutes : Nat} {digits : List Char}
    (spelling : OffsetSpelling hours minutes digits) (inHours : hours ≤ 25) (inMinutes : minutes ≤ 59)
    (negative : Bool) : ∃ offset, offset? negative digits = some offset ∧
      offset.seconds = offsetSeconds negative hours minutes := by
  have range : -93599 ≤ offsetSeconds negative hours minutes ∧
      offsetSeconds negative hours minutes ≤ 93599 := by
    cases negative with
    | false =>
        simp only [offsetSeconds, Bool.false_eq_true, if_false]
        omega
    | true =>
        simp only [offsetSeconds, if_true]
        omega
  have grammar := spelling.digits inHours inMinutes
  exact ⟨⟨_, range⟩,
    offset?_eq_some_iff.mpr ⟨hours, minutes, grammar, inHours, inMinutes, rfl⟩, rfl⟩

theorem zone?_signed (negative : Bool) (text : List Char) :
    zone? (signMark negative :: text) = (offset? negative text).map some := by
  cases negative with
  | false => simp [zone?, signMark, utcNames, Text.sameLetters, Text.lower]
  | true => simp [zone?, signMark, utcNames, Text.sameLetters, Text.lower]

theorem zone?_utcName {name text : List Char} (known : name ∈ utcNames)
    (same : Text.lower text = Text.lower name) : zone? text = some (some Zone.utc) := by
  have filled : text.isEmpty = false := by
    cases text with
    | nil =>
        have unnamed : [] ∉ utcNames := by decide
        rw [List.map_eq_nil_iff.mp same.symm] at known
        exact absurd known unnamed
    | cons c rest => rfl
  have named : utcNames.any (Text.sameLetters text) = true :=
    List.any_eq_true.mpr ⟨name, known, beq_iff_eq.mpr same⟩
  unfold zone?
  rw [filled, named]
  rfl

private theorem isClockCharacter_toLower (c : Char) :
    isClockCharacter c.toLower = isClockCharacter c :=
  Text.test_toLower isClockCharacter (by decide) c

/-- The letters of a name of UTC, in any case, are no blanks and no part of a time of day. -/
theorem word_of_utcName {name text : List Char} (known : name ∈ utcNames)
    (same : Text.lower text = Text.lower name) :
    ∀ c ∈ text, Text.isBlank c = false ∧ isClockCharacter c = false := by
  have letters : ∀ name ∈ utcNames,
      (Text.lower name).all (fun c => !Text.isBlank c && !isClockCharacter c) = true := by decide
  intro c member
  have lowered : c.toLower ∈ Text.lower name := same ▸ List.mem_map_of_mem member
  have letter := List.all_eq_true.mp (letters name known) _ lowered
  simp only [Text.isBlank_toLower, isClockCharacter_toLower, Bool.and_eq_true,
    Bool.not_eq_true'] at letter
  exact letter

end Timestamp

end ForeignTable
