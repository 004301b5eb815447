import ForeignTable.Proofs.Timestamp.Offset
import ForeignTable.Proofs.Timestamp.Range

/-! Zones behind a timestamp. A zone that is put behind a text without one changes neither the date
nor the time of day that are read, so the text is read at the offset of the zone. -/

set_option autoImplicit false

namespace ForeignTable.Timestamp

/-!
## Dates with more behind them
-/

private theorem length_datePart_lt {text : List Char} (marked : datePart text ≠ text) :
    (datePart text).length < text.length := by
  apply Nat.lt_of_le_of_ne (List.takeWhile_prefix _).length_le
  intro same
  exact marked ((List.takeWhile_prefix _).eq_of_length same)

/-- A date that ends at a mark ends there with any text behind it. -/
theorem datePart_append {text : List Char} (marked : datePart text ≠ text) (rest : List Char) :
    datePart (text ++ rest) = datePart text :=
  List.takeWhile_append.trans (if_neg (Nat.ne_of_lt (length_datePart_lt marked)))

private theorem behindDate_append {text : List Char} (marked : datePart text ≠ text)
    (rest : List Char) :
    behindDate (text ++ rest) =
      Text.trimStart (text.drop ((datePart text).length + 1) ++ rest) := by
  rw [behindDate, datePart_append marked, List.drop_append_of_le_length (length_datePart_lt marked)]

private theorem behindDate_of_unmarked {text : List Char} (unmarked : datePart text = text) :
    behindDate text = [] := by
  rw [behindDate, unmarked, List.drop_eq_nil_of_le (Nat.le_succ _)]
  rfl

/-- A text behind a date and a time of day stays behind them, with some of the blanks that stood in
between. -/
theorem exists_behindDate {text gap : List Char} {mark : Char} {rest : List Char}
    (blank : ∀ c ∈ gap, Text.isBlank c = true) (unblank : Text.isBlank mark = false)
    (apart : datePart text = text → gap.head? = some ' ') :
    datePart (text ++ (gap ++ mark :: rest)) = datePart text ∧
      ∃ between, (∀ c ∈ between, Text.isBlank c = true) ∧
        behindDate (text ++ (gap ++ mark :: rest)) =
          behindDate text ++ (between ++ mark :: rest) := by
  have started : ∀ blanks : List Char, (∀ c ∈ blanks, Text.isBlank c = true) →
      Text.trimStart (blanks ++ mark :: rest) = mark :: rest := by
    intro blanks all
    rw [Text.trimStart_of_blank all]
    apply Text.trimStart_eq_self
    intro c here
    cases here
    exact unblank
  by_cases unmarked : datePart text = text
  · obtain ⟨others, rfl⟩ := List.head?_eq_some_iff.mp (apart unmarked)
    rw [List.cons_append, datePart_blank unmarked, behindDate_blank unmarked,
      behindDate_of_unmarked unmarked, started others (List.forall_mem_cons.mp blank).2]
    exact ⟨unmarked.symm, [], nofun, rfl⟩
  · rw [datePart_append unmarked, behindDate_append unmarked, behindDate]
    by_cases finished : Text.trimStart (text.drop ((datePart text).length + 1)) = []
    · have onlyBlanks := List.dropWhile_eq_nil_iff.mp finished
      rw [Text.trimStart_of_blank onlyBlanks, started gap blank, finished]
      exact ⟨rfl, [], nofun, rfl⟩
    · rw [Text.trimStart_append finished]
      exact ⟨rfl, gap, blank, rfl⟩

/-- A number does not go on behind its last digit. -/
theorem unsigned?_append {bound : Nat} {text : List Char} (filled : text ≠ []) {mark : Char}
    (other : mark.isDigit = false) (rest : List Char) :
    Text.unsigned? bound (text ++ mark :: rest) = none := by
  obtain ⟨first, others, rfl⟩ := List.exists_cons_of_ne_nil filled
  apply Option.eq_none_iff_forall_ne_some.mpr
  intro value read
  obtain ⟨sign, body, shape, signed, denoted, _⟩ := Text.unsigned?_eq_some_iff.mp read
  have digits := (Text.natural?_eq_some_iff.mp denoted).2.1
  apply Text.not_mem_of_allDigits digits other
  -- a sign is one character at most, and the first one is not the mark
  cases signed with
  | inl unsigned =>
      rw [unsigned, List.nil_append] at shape
      rw [← shape]
      exact List.mem_append_right _ List.mem_cons_self
  | inr plus =>
      rw [plus] at shape
      obtain ⟨_, behind⟩ := List.cons.inj shape
      rw [← show others ++ mark :: rest = body from behind]
      exact List.mem_append_right _ List.mem_cons_self

private theorem unsigned?_filled {bound : Nat} {text : List Char} {value : Nat}
    (read : Text.unsigned? bound text = some value) : text ≠ [] := by
  intro empty
  subst empty
  cases read

private theorem date?_append {text : List Char} {date : Date} (read : date? text = some date)
    {mark : Char}
    (other : mark.isDigit = false) (rest : List Char) : date? (text ++ mark :: rest) = none := by
  obtain ⟨⟨yearText, behindYear⟩, splitYear, continuation⟩ := Option.bind_eq_some_iff.mp read
  obtain ⟨⟨monthText, dayText⟩, splitMonth, continuation⟩ := Option.bind_eq_some_iff.mp continuation
  obtain ⟨year, readYear, continuation⟩ := Option.bind_eq_some_iff.mp continuation
  obtain ⟨month, readMonth, continuation⟩ := Option.bind_eq_some_iff.mp continuation
  obtain ⟨day, readDay, _⟩ := Option.bind_eq_some_iff.mp continuation
  obtain ⟨rfl, noYear⟩ := Text.splitOnce_eq_some splitYear
  obtain ⟨rfl, noMonth⟩ := Text.splitOnce_eq_some splitMonth
  have noDay : Text.unsigned? 256 (dayText ++ mark :: rest) = none :=
    unsigned?_append (unsigned?_filled readDay) other rest
  unfold date?
  simp only [List.append_assoc, List.cons_append, Text.splitOnce_append noYear,
    Text.splitOnce_append noMonth, readYear, readMonth, noDay, Option.bind_eq_bind,
    Option.bind_some, Option.bind_none]

/-!
## Texts without a zone
-/

private theorem zone?_nothing {text : List Char} (nothing : zone? text = some none) :
    text = [] := by
  unfold zone? at nothing
  split at nothing
  · rename_i empty
    exact List.isEmpty_iff.mp empty
  · split at nothing
    · cases nothing
    · split at nothing
      · obtain ⟨_, _, impossible⟩ := Option.map_eq_some_iff.mp nothing
        cases impossible
      · obtain ⟨_, _, impossible⟩ := Option.map_eq_some_iff.mp nothing
        cases impossible
      · cases nothing

/-- The text is read as these microseconds without an offset, and it does not end in a blank. -/
structure Zoneless (text : List Char) (micros : Int) : Prop where
  read : reading? text = some ⟨micros, none⟩
  ends : ∀ c ∈ text.getLast?, Text.isBlank c = false

namespace Zoneless

variable {text : List Char} {micros : Int} (zoneless : Zoneless text micros)

include zoneless

/-- Behind the date there is nothing but the time of day. -/
theorem parts : ∃ date clock, date? (datePart (Text.trim text)) = some date ∧
    clockOrMidnight? (behindDate (Text.trim text)) = some clock ∧
    (∀ c ∈ behindDate (Text.trim text), isClockCharacter c = true) ∧
    date.dayNumber * 86400000000 + (clock : Int) = micros := by
  obtain ⟨date, clock, readDate, readClock, readZone, counted⟩ :=
    reading?_eq_some_iff.mp zoneless.read
  have inside : (behindDate (Text.trim text)).dropWhile isClockCharacter <:+ text := by
    rw [behindDate, Text.trim_eq_trimStart zoneless.ends]
    exact (List.dropWhile_suffix _).trans <| (List.dropWhile_suffix _).trans <|
      (List.drop_suffix _ _).trans (List.dropWhile_suffix _)
  have finished := Text.eq_nil_of_suffix inside zoneless.ends (zone?_nothing readZone)
  have clockCharacters := List.dropWhile_eq_nil_iff.mp finished
  rw [List.takeWhile_eq_self_iff.mpr clockCharacters] at readClock
  exact ⟨date, clock, readDate, readClock, clockCharacters, counted⟩

private theorem trim_append {gap : List Char} {mark : Char} (unblank : Text.isBlank mark = false)
    (rest : List Char) : Text.trim (text ++ (gap ++ mark :: rest)) =
      Text.trim text ++ (gap ++ mark :: Text.trimEnd rest) := by
  obtain ⟨date, _, readDate, _⟩ := zoneless.parts
  have trimmed := Text.trim_eq_trimStart zoneless.ends
  have filled : Text.trimStart text ≠ [] := by
    intro empty
    rw [trimmed, empty] at readDate
    cases readDate
  have ending : Text.trimEnd (mark :: rest) = mark :: Text.trimEnd rest :=
    Text.trimEnd_cons unblank rest
  have kept : Text.trimEnd (mark :: rest) ≠ [] := by
    rw [ending]
    exact List.cons_ne_nil _ _
  rw [trimmed, Text.trim, Text.trimStart_append filled, ← List.append_assoc,
    Text.trimEnd_append kept, ending, List.append_assoc]

section

variable {gap : List Char} {mark : Char} (blank : ∀ c ∈ gap, Text.isBlank c = true)
  (unblank : Text.isBlank mark = false)

include blank unblank

/-- Behind a text without a zone stands a zone of its own. Behind a date alone a blank has to part
them. -/
theorem reading?_append (apart : datePart (Text.trim text) = Text.trim text → gap.head? = some ' ')
    (other : isClockCharacter mark = false) (rest : List Char) :
    reading? (text ++ (gap ++ mark :: rest)) =
      (zone? (mark :: Text.trimEnd rest)).map fun offset => ⟨micros, offset⟩ := by
  obtain ⟨date, clock, readDate, readClock, clockCharacters, counted⟩ := zoneless.parts
  obtain ⟨sameDate, between, blanks, behind⟩ :=
    exists_behindDate blank unblank apart
  have stops : ∀ c ∈ (between ++ mark :: Text.trimEnd rest).head?, isClockCharacter c = false := by
    intro c here
    cases between with
    | nil =>
        cases here
        exact other
    | cons first others =>
        cases here
        apply Bool.eq_false_iff.mpr
        intro clockCharacter
        have clean := isBlank_of_isClockCharacter clockCharacter
        rw [blanks _ List.mem_cons_self] at clean
        cases clean
  have zoneText : Text.trim (between ++ mark :: Text.trimEnd rest) =
      mark :: Text.trimEnd rest := by
    have started : Text.trimStart (mark :: Text.trimEnd rest) = mark :: Text.trimEnd rest := by
      apply Text.trimStart_eq_self
      intro c here
      cases here
      exact unblank
    rw [Text.trim, Text.trimStart_of_blank blanks, started, Text.trimEnd_cons unblank,
      Text.trimEnd_trimEnd]
  rw [reading?_eq, zoneless.trim_append unblank, sameDate, readDate, behind,
    Text.takeWhile_append_of_stop clockCharacters stops,
    Text.dropWhile_append_of_stop clockCharacters stops, readClock, zoneText, Option.bind_some,
    Option.bind_some, counted]

/-- A date that is not parted from the zone behind it is no date. -/
theorem reading?_of_unparted (unmarked : datePart (Text.trim text) = Text.trim text)
    (unparted : gap.head? ≠ some ' ') (word : mark.isDigit = false) (noTime : mark ≠ 'T')
    (rest : List Char) : reading? (text ++ (gap ++ mark :: rest)) = none := by
  obtain ⟨date, _, readDate, _⟩ := zoneless.parts
  obtain ⟨c, others, shape, noDigit, inDate⟩ : ∃ c others,
      gap ++ mark :: Text.trimEnd rest = c :: others ∧ c.isDigit = false ∧
        isDateCharacter c = true := by
    cases gap with
    | nil =>
        refine ⟨mark, _, rfl, word, ?_⟩
        have parted : mark ≠ ' ' := by
          intro same
          subst same
          cases unblank
        simp [isDateCharacter, parted, noTime]
    | cons first others =>
        have blankFirst := blank first List.mem_cons_self
        refine ⟨first, _, rfl, ?_, ?_⟩
        · apply Bool.eq_false_iff.mpr
          intro digit
          rw [Text.isBlank_of_isDigit digit] at blankFirst
          cases blankFirst
        · have parted : first ≠ ' ' := by
            intro same
            exact unparted (congrArg some same)
          have noMark : first ≠ 'T' := by
            intro same
            subst same
            cases blankFirst
          simp [isDateCharacter, parted, noMark]
  have longer : datePart (Text.trim text ++ c :: others) =
      Text.trim text ++ c :: others.takeWhile isDateCharacter := by
    have all := List.takeWhile_eq_self_iff.mp unmarked
    rw [datePart, List.takeWhile_append_of_pos all, List.takeWhile_cons_of_pos inDate]
  rw [unmarked] at readDate
  rw [reading?_eq, zoneless.trim_append unblank, shape, longer, date?_append readDate noDigit,
    Option.bind_none]

end

end Zoneless

/-!
## Instants of texts with a zone
-/

/-- The offset that a text carries tells its instant, whatever the session zone is. -/
theorem exists_ofInstantText_of_carried {text : String} {micros : Int} {offset : Zone}
    (found : reading? text.toList = some ⟨micros, some offset⟩) :
    ∃ instant : Signed 64, instant.toInt = micros - offset.micros - epochMicros ∧
      ∀ zone, ofInstantText text zone none = .ok instant := by
  obtain ⟨instant, success, counted⟩ := exists_ofUnixMicros found Zone.utc (.inl rfl)
  refine ⟨instant, counted, ?_⟩
  intro zone
  rw [ofInstantText_eq found]
  exact success

section

variable {text : String} {micros : Int} (zoneless : Zoneless text.toList micros)

include zoneless

private theorem Zoneless.exists_inUtc : ∃ inUtc : Signed 64, inUtc.toInt = micros - epochMicros ∧
    ofInstantText text Zone.utc none = .ok inUtc := by
  obtain ⟨inUtc, success, counted⟩ := exists_ofUnixMicros zoneless.read Zone.utc (.inl rfl)
  refine ⟨inUtc, ?_, ?_⟩
  · rw [counted, Reading.instant, Option.getD_none, utc_micros, Int.sub_zero]
  · rw [ofInstantText_eq zoneless.read]
    exact success

/-- A zone behind a blank is read in full, and moves the text by its offset. -/
theorem Zoneless.exists_behindBlank {mark : Char} {rest : List Char} {offset : Zone}
    (unblank : Text.isBlank mark = false) (other : isClockCharacter mark = false)
    (named : zone? (mark :: Text.trimEnd rest) = some (some offset)) :
    ∃ instant : Signed 64, instant.toInt = micros - offset.micros - epochMicros ∧
      ∀ zone, ofInstantText (text ++ " " ++ String.ofList (mark :: rest)) zone none =
        .ok instant := by
  apply exists_ofInstantText_of_carried
  have blank : ∀ c ∈ [' '], Text.isBlank c = true := List.forall_mem_singleton.mpr rfl
  simp only [String.toList_append, String.toList_ofList, List.append_assoc]
  have read := zoneless.reading?_append blank unblank (fun _ => rfl) other rest
  rw [named] at read
  exact read

private theorem Zoneless.exists_spelled {hours minutes : Nat} {digits : List Char}
    (spelling : OffsetSpelling hours minutes digits) (inHours : hours ≤ 25)
    (inMinutes : minutes ≤ 59) (negative : Bool) :
    ∃ moved : Signed 64,
      moved.toInt = micros - offsetSeconds negative hours minutes * 1000000 - epochMicros ∧
      ∀ zone, ofInstantText (text ++ " " ++ String.ofList (signMark negative :: digits)) zone none =
        .ok moved := by
  obtain ⟨unblank, other, _⟩ := signMark_apart negative
  obtain ⟨offset, accepted, east⟩ := spelling.exists_offset? inHours inMinutes negative
  have clean := (spelling.digits inHours inMinutes).unblank
  have ending : Text.trimEnd digits = digits :=
    Text.trimEnd_eq_self fun c final => clean c (List.mem_of_getLast? final)
  have named : zone? (signMark negative :: Text.trimEnd digits) = some (some offset) := by
    rw [ending, zone?_signed, accepted]
    rfl
  obtain ⟨moved, away, told⟩ := zoneless.exists_behindBlank unblank other named
  refine ⟨moved, ?_, told⟩
  rw [away, Zone.micros, east]

private theorem Zoneless.exists_named {name : List Char} (known : name ∈ utcNames) {suffix : String}
    (same : Text.lower suffix.toList = Text.lower name) :
    ∃ instant : Signed 64, instant.toInt = micros - epochMicros ∧
      ∀ zone, ofInstantText (text ++ " " ++ suffix) zone none = .ok instant := by
  have word := word_of_utcName known same
  have named := zone?_utcName known same
  obtain ⟨first, others, shape⟩ : ∃ first others, suffix.toList = first :: others := by
    apply List.exists_cons_of_ne_nil
    intro empty
    rw [empty] at named
    cases named
  have ending : Text.trimEnd (first :: others) = first :: others :=
    Text.trimEnd_eq_self fun c final => (word c (shape ▸ List.mem_of_getLast? final)).1
  obtain ⟨unblank, other⟩ := word first (shape ▸ List.mem_cons_self)
  rw [Text.trimEnd_cons unblank] at ending
  rw [shape, ← ending] at named
  obtain ⟨instant, counted, told⟩ := zoneless.exists_behindBlank unblank other named
  rw [utc_micros, Int.sub_zero] at counted
  rw [← shape, String.ofList_toList] at told
  exact ⟨instant, counted, told⟩

/-- An accepted suffix that starts with a sign is an offset of the grammar, blanks aside. -/
theorem Zoneless.digits_of_signed {gap rest : List Char} {negative : Bool} {zone : Zone}
    {moved : Signed 64} (blank : ∀ c ∈ gap, Text.isBlank c = true)
    (success : ofInstantText (text ++ String.ofList (gap ++ signMark negative :: rest)) zone none =
      .ok moved) :
    ∃ hours minutes, OffsetDigits (Text.trimEnd rest) hours minutes ∧ hours ≤ 25 ∧ minutes ≤ 59 ∧
      moved.toInt = micros - offsetSeconds negative hours minutes * 1000000 - epochMicros := by
  obtain ⟨unblank, other, noDigit, noTime⟩ := signMark_apart negative
  obtain ⟨reading, found, _⟩ := ofInstantText_eq_ok success
  have whole := found
  rw [String.toList_append, String.toList_ofList] at found
  have apart : datePart (Text.trim text.toList) = Text.trim text.toList → gap.head? = some ' ' := by
    intro unmarked
    apply Classical.byContradiction
    intro unparted
    rw [zoneless.reading?_of_unparted blank unblank unmarked unparted noDigit noTime] at found
    cases found
  rw [zoneless.reading?_append blank unblank apart other, zone?_signed, Option.map_map] at found
  obtain ⟨offset, accepted, rfl⟩ := Option.map_eq_some_iff.mp found
  obtain ⟨hours, minutes, grammar, inHours, inMinutes, east⟩ := offset?_eq_some_iff.mp accepted
  obtain ⟨instant, counted, told⟩ := exists_ofInstantText_of_carried whole
  cases (told zone).symm.trans success
  refine ⟨hours, minutes, grammar, inHours, inMinutes, ?_⟩
  rw [counted, Zone.micros, east]

end

/-- A zone behind a text without one tells how far the text is from UTC, in every session zone. A
signed suffix that is accepted is a signed offset, blanks aside. -/
theorem zone_suffix_read {text : String} {micros : Int} (zoneless : Zoneless text.toList micros) :
    ∃ inUtc : Signed 64, inUtc.toInt = micros - epochMicros ∧
      ofInstantText text Zone.utc none = .ok inUtc ∧
      (∀ negative hours minutes digits, hours ≤ 25 → minutes ≤ 59 →
        OffsetSpelling hours minutes digits → ∃ moved : Signed 64,
          moved.toInt = inUtc.toInt - offsetSeconds negative hours minutes * 1000000 ∧
          ∀ zone, ofInstantText (text ++ " " ++ String.ofList (signMark negative :: digits)) zone
            none = .ok moved) ∧
      (∀ name ∈ ["UTC", "GMT", "UCT", "Z"], ∀ suffix : String,
        Text.lower suffix.toList = Text.lower name.toList →
          ∀ zone, ofInstantText (text ++ " " ++ suffix) zone none = .ok inUtc) ∧
      ∀ gap rest negative zone moved, (∀ c ∈ gap, Text.isBlank c = true) →
        ofInstantText (text ++ String.ofList (gap ++ signMark negative :: rest)) zone none =
          .ok moved →
        ∃ hours minutes, OffsetDigits (Text.trimEnd rest) hours minutes ∧ hours ≤ 25 ∧
          minutes ≤ 59 ∧
          moved.toInt = inUtc.toInt - offsetSeconds negative hours minutes * 1000000 := by
  obtain ⟨inUtc, counted, success⟩ := zoneless.exists_inUtc
  refine ⟨inUtc, counted, success, ?_, ?_, ?_⟩
  · intro negative hours minutes digits inHours inMinutes spelling
    obtain ⟨moved, away, told⟩ := zoneless.exists_spelled spelling inHours inMinutes negative
    refine ⟨moved, ?_, told⟩
    rw [away, counted]
    omega
  · intro name known suffix same zone
    have listed : name.toList ∈ utcNames := List.mem_map_of_mem (f := String.toList) known
    obtain ⟨instant, unmoved, told⟩ := zoneless.exists_named listed same
    rw [told zone, Signed.ext (unmoved.trans counted.symm)]
  · intro gap rest negative zone moved blank accepted
    obtain ⟨hours, minutes, grammar, inHours, inMinutes, away⟩ :=
      zoneless.digits_of_signed blank accepted
    refine ⟨hours, minutes, grammar, inHours, inMinutes, ?_⟩
    rw [away, counted]
    omega

/-- Half an hour west of UTC has its sign in front of a zero. -/
theorem zone_suffix_read_half_hour_west :
    Zoneless "2024-01-01T05:30:00.25".toList 1704087000250000 ∧
      ∃ inUtc moved : Signed 64,
        ofInstantText "2024-01-01T05:30:00.25" Zone.utc none = .ok inUtc ∧
        moved.toInt = inUtc.toInt + 1800000000 ∧
        (∀ zone, ofInstantText "2024-01-01T05:30:00.25 -00:30" zone none = .ok moved) ∧
        ∀ zone, ofInstantText "2024-01-01T05:30:00.25 utC" zone none = .ok inUtc := by
  have last : "2024-01-01T05:30:00.25".toList.getLast? = some '5' := by decide +kernel
  have zoneless : Zoneless "2024-01-01T05:30:00.25".toList 1704087000250000 := by
    refine ⟨by decide +kernel, ?_⟩
    intro c final
    cases last.symm.trans final
    rfl
  obtain ⟨inUtc, _, success, signed, named, _⟩ := zone_suffix_read zoneless
  obtain ⟨moved, away, told⟩ := signed true 0 30 _ (by decide) (by decide) .joined
  exact ⟨zoneless, inUtc, moved, success, away, told, named "UTC" (by decide) "utC" (by decide)⟩

end ForeignTable.Timestamp
