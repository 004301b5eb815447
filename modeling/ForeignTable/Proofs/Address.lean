import ForeignTable.Address
import ForeignTable.Proofs.Text.Hex
import ForeignTable.Proofs.Text.Numeral

/-! Texts of addresses. The canonical text of an address of either version reads back as the
address: the compressed run of zeros is the one that is filled in again. -/

set_option autoImplicit false

namespace ForeignTable.Address

/-!
## Joined parts
-/

variable {separator : Char} {parts : List (List Char)}

private theorem joined_cons_cons (part next : List Char) (rest : List (List Char)) :
    joined separator (part :: next :: rest) =
      part ++ separator :: joined separator (next :: rest) := rfl

private theorem mem_joined {c : Char} (member : c ∈ joined separator parts) :
    c = separator ∨ ∃ part ∈ parts, c ∈ part := by
  induction parts with
  | nil => cases member
  | cons part rest ih =>
      cases rest with
      | nil => exact .inr ⟨part, List.mem_cons_self, member⟩
      | cons next others =>
          rw [joined_cons_cons, List.mem_append, List.mem_cons] at member
          rcases member with here | mark | later
          · exact .inr ⟨part, List.mem_cons_self, here⟩
          · exact .inl mark
          · rcases ih later with mark | ⟨other, found, inside⟩
            · exact .inl mark
            · exact .inr ⟨other, List.mem_cons_of_mem _ found, inside⟩

private theorem fields_joined (filled : parts ≠ []) (absent : ∀ part ∈ parts, separator ∉ part) :
    Text.fields separator (joined separator parts) = parts := by
  induction parts with
  | nil => exact absurd rfl filled
  | cons part rest ih =>
      obtain ⟨here, later⟩ := List.forall_mem_cons.mp absent
      cases rest with
      | nil => exact Text.fields_of_absent here
      | cons next others =>
          rw [joined_cons_cons, Text.fields_append here, ih (List.cons_ne_nil _ _) later]

private theorem joined_ne_nil (filled : parts ≠ []) (each : ∀ part ∈ parts, part ≠ []) :
    joined separator parts ≠ [] := by
  cases parts with
  | nil => exact absurd rfl filled
  | cons part rest =>
      have here := each part List.mem_cons_self
      cases rest with
      | nil => exact here
      | cons next others => simp [joined_cons_cons]

/-!
## Parts read one by one
-/

private theorem exists_of_mapM_eq_some {Source Value : Type} {read : Source → Option Value}
    {items : List Source} {values : List Value} (success : items.mapM read = some values)
    {item : Source} (member : item ∈ items) : ∃ value, read item = some value := by
  induction items generalizing values with
  | nil => cases member
  | cons head tail ih =>
      rw [List.mapM_cons] at success
      obtain ⟨value, first, continuation⟩ := Option.bind_eq_some_iff.mp success
      obtain ⟨others, remaining, _⟩ := Option.bind_eq_some_iff.mp continuation
      rcases List.mem_cons.mp member with rfl | later
      · exact ⟨value, first⟩
      · exact ih remaining later

/-!
## Four octets
-/

private theorem octet?_digits (octet : UInt8) : octet? (Text.digits octet.toNat) = some octet := by
  have small := octet.toNat_lt
  unfold octet?
  simp only [Text.natural?_digits, Option.bind_eq_bind, Option.bind_some, beq_self_eq_true,
    Bool.and_true, decide_eq_true_eq, UInt8.ofNat_toNat]
  exact if_pos small

private theorem fields_dotted {octets : List UInt8} (filled : octets ≠ []) :
    Text.fields '.' (dotted octets) = octets.map fun octet => Text.digits octet.toNat := by
  apply fields_joined
  · simpa using filled
  · intro part member
    obtain ⟨octet, _, rfl⟩ := List.mem_map.mp member
    exact Text.not_mem_of_allDigits (Text.allDigits_digits _) rfl

private theorem octets?_dotted {octets : List UInt8} (four : octets.length = 4) :
    octets? (dotted octets) = some octets := by
  have filled : octets ≠ [] := by
    intro empty
    rw [empty] at four
    cases four
  unfold octets?
  rw [fields_dotted filled, Text.mapM_map_of_reads octet?_digits]
  simp [four]

private theorem mem_dotted {octets : List UInt8} {c : Char} (member : c ∈ dotted octets) :
    c = '.' ∨ c.isDigit = true := by
  rcases mem_joined member with mark | ⟨part, found, inside⟩
  · exact .inl mark
  · obtain ⟨octet, _, rfl⟩ := List.mem_map.mp found
    exact .inr (List.all_eq_true.mp (Text.allDigits_digits _) c inside)

/-- Only digits and dots are read as octets. -/
theorem mem_of_octets? {text : List Char} {octets : List UInt8} (read : octets? text = some octets)
    {c : Char} (member : c ∈ text) : c = '.' ∨ c.isDigit = true := by
  by_cases mark : c = '.'
  · exact .inl mark
  · obtain ⟨field, found, inside⟩ := Text.exists_field_of_mem member mark
    obtain ⟨values, all, _⟩ := Option.bind_eq_some_iff.mp read
    obtain ⟨octet, spelled⟩ := exists_of_mapM_eq_some all found
    obtain ⟨value, natural, _⟩ := Option.bind_eq_some_iff.mp spelled
    obtain ⟨_, digits, _⟩ := Text.natural?_eq_some_iff.mp natural
    exact .inr (List.all_eq_true.mp digits c inside)

private theorem octets?_of_no_dot {text : List Char} (absent : '.' ∉ text) :
    octets? text = none := by
  unfold octets?
  rw [Text.fields_of_absent absent, List.mapM_cons, List.mapM_nil]
  cases octet? text with
  | none => rfl
  | some octet => rfl

private theorem octets?_of_colon {text : List Char} (colon : ':' ∈ text) : octets? text = none := by
  cases read : octets? text with
  | none => rfl
  | some octets => rcases mem_of_octets? read colon with impossible | impossible <;> cases impossible

/-!
## Groups
-/

private theorem group?_toDigits (group : UInt16) :
    group? (Nat.toDigits 16 group.toNat) = some group := by
  have small := group.toNat_lt
  have short : (Nat.toDigits 16 group.toNat).length ≤ 4 :=
    (Nat.length_toDigits_le_iff (by decide) (by decide)).mpr small
  unfold group?
  rw [if_neg, Text.hexNumber?_toDigits]
  · simp
  · simp [Nat.toDigits_ne_nil, short]

private theorem trailingGroups?_map (groups : List UInt16) :
    trailingGroups? (groups.map fun group => Nat.toDigits 16 group.toNat) = some groups := by
  induction groups with
  | nil => rfl
  | cons group rest ih =>
      cases rest with
      | nil =>
          have undotted : '.' ∉ Nat.toDigits 16 group.toNat := Text.not_mem_toDigits rfl _
          simp only [List.map_cons, List.map_nil, trailingGroups?, octets?_of_no_dot undotted,
            group?_toDigits]
          rfl
      | cons next others =>
          simp only [List.map_cons] at ih
          simp only [List.map_cons, trailingGroups?, group?_toDigits, ih]
          rfl

private theorem colonFields_coloned (groups : List UInt16) :
    colonFields (coloned groups) = groups.map fun group => Nat.toDigits 16 group.toNat := by
  cases groups with
  | nil => rfl
  | cons group rest =>
      have filled : coloned (group :: rest) ≠ [] := by
        apply joined_ne_nil (by simp)
        intro part member
        obtain ⟨_, _, rfl⟩ := List.mem_map.mp member
        exact Nat.toDigits_ne_nil
      unfold colonFields
      rw [if_neg (by simpa using filled)]
      apply fields_joined (by simp)
      intro part member
      obtain ⟨_, _, rfl⟩ := List.mem_map.mp member
      exact Text.not_mem_toDigits rfl _

/-!
## The compressed run
-/

private theorem splitCompressed_cons {c : Char} {text : List Char}
    (apart : c ≠ ':' ∨ text.head? ≠ some ':') :
    splitCompressed (c :: text) =
      (splitCompressed text).map fun (before, after) => (c :: before, after) := by
  rw [splitCompressed]
  rintro rest rfl rfl
  simp at apart

private theorem splitCompressed_append {part : List Char} (absent : ':' ∉ part) (tail : List Char) :
    splitCompressed (part ++ tail) =
      (splitCompressed tail).map fun (before, after) => (part ++ before, after) := by
  induction part with
  | nil => simp
  | cons c rest ih =>
      obtain ⟨other, others⟩ := not_or.mp (mt List.mem_cons.mpr absent)
      rw [List.cons_append, splitCompressed_cons (.inl (Ne.symm other)), ih others, Option.map_map]
      rfl

/-- Single colons between parts are not taken for the double one. -/
theorem splitCompressed_joined (parts : List (List Char))
    (each : ∀ part ∈ parts, part ≠ [] ∧ ':' ∉ part) (tail : List Char) :
    splitCompressed (joined ':' parts ++ tail) =
      (splitCompressed tail).map fun (before, after) => (joined ':' parts ++ before, after) := by
  induction parts with
  | nil => simp [joined]
  | cons part rest ih =>
      obtain ⟨⟨_, absent⟩, later⟩ := List.forall_mem_cons.mp each
      cases rest with
      | nil => exact splitCompressed_append absent tail
      | cons next others =>
          -- the part behind a separator is not empty, so no second colon follows at once
          have apart : (joined ':' (next :: others) ++ tail).head? ≠ some ':' := by
            obtain ⟨filled, unmarked⟩ := later next List.mem_cons_self
            cases next with
            | nil => exact absurd rfl filled
            | cons first following =>
                have other : first ≠ ':' := by
                  intro mark
                  rw [mark] at unmarked
                  exact unmarked List.mem_cons_self
                cases others with
                | nil => simpa [joined] using other
                | cons another remaining => simpa [joined] using other
          rw [joined_cons_cons, List.append_assoc, splitCompressed_append absent, List.cons_append,
            splitCompressed_cons (.inr apart), ih later, Option.map_map, Option.map_map]
          congr 1
          funext ⟨before, after⟩
          simp

private theorem splitCompressed_coloned (groups : List UInt16) (tail : List Char) :
    splitCompressed (coloned groups ++ tail) =
      (splitCompressed tail).map fun (before, after) => (coloned groups ++ before, after) := by
  apply splitCompressed_joined
  intro part member
  obtain ⟨_, _, rfl⟩ := List.mem_map.mp member
  exact ⟨Nat.toDigits_ne_nil, Text.not_mem_toDigits rfl _⟩

private theorem replicate_leadingZeros (groups : List UInt16) :
    List.replicate (leadingZeros groups) 0 ++ groups.drop (leadingZeros groups) = groups := by
  have zeros : List.replicate (leadingZeros groups) 0 = groups.takeWhile (· == 0) := by
    apply (List.eq_replicate_iff.mpr ⟨rfl, _⟩).symm
    intro group member
    exact eq_of_beq (List.all_eq_true.mp List.all_takeWhile group member)
  rw [zeros]
  exact List.prefix_iff_eq_append.mp (List.takeWhile_prefix _)

/-- The run that is left out of a text is one of zeros, and it is filled in again. -/
theorem longestZeroRun_spec (groups : List UInt16) :
    (longestZeroRun groups).1 + (longestZeroRun groups).2 ≤ groups.length ∧
      groups.take (longestZeroRun groups).1 ++ List.replicate (longestZeroRun groups).2 0 ++
        groups.drop ((longestZeroRun groups).1 + (longestZeroRun groups).2) = groups := by
  induction groups with
  | nil => exact ⟨Nat.le_refl 0, rfl⟩
  | cons group rest ih =>
      obtain ⟨inside, filled⟩ := ih
      simp only [longestZeroRun]
      split
      · have whole := (List.takeWhile_prefix (· == (0 : UInt16)) (l := group :: rest)).length_le
        rw [Nat.zero_add]
        exact ⟨whole, replicate_leadingZeros (group :: rest)⟩
      · refine ⟨by simp only [List.length_cons]; omega, ?_⟩
        rw [Nat.add_right_comm, List.drop_succ_cons, List.take_succ_cons, List.cons_append,
          List.cons_append, filled]

/-!
## Reading back
-/

private theorem groups?_coloned {groups : List UInt16} :
    groups? (coloned groups) = some groups := by
  have single := splitCompressed_coloned groups []
  rw [List.append_nil] at single
  unfold groups?
  rw [single]
  simp only [splitCompressed, Option.map_none]
  rw [colonFields_coloned, trailingGroups?_map]

private theorem groups?_compressed {front back : List UInt16}
    (short : front.length + back.length ≤ 7) :
    groups? (coloned front ++ ':' :: ':' :: coloned back) =
      some (front ++ List.replicate (8 - (front.length + back.length)) 0 ++ back) := by
  unfold groups?
  rw [splitCompressed_coloned]
  simp only [splitCompressed, Option.map_some, List.append_nil, colonFields_coloned,
    Text.mapM_map_of_reads group?_toDigits, trailingGroups?_map, Option.bind_eq_bind,
    Option.bind_some, short, if_true]

private theorem groupOfOctets_octetsOfGroup (group : UInt16) :
    groupOfOctets (UInt8.ofNat (group.toNat / 256)) (UInt8.ofNat (group.toNat % 256)) = group := by
  have small := group.toNat_lt
  have high : (UInt8.ofNat (group.toNat / 256)).toNat = group.toNat / 256 :=
    UInt8.toNat_ofNat_of_lt' (by change _ < 256; omega)
  have low : (UInt8.ofNat (group.toNat % 256)).toNat = group.toNat % 256 :=
    UInt8.toNat_ofNat_of_lt' (by change _ < 256; omega)
  unfold groupOfOctets
  rw [high, low, Nat.div_add_mod, UInt16.ofNat_toNat]

private theorem groups?_embedded (high low : UInt16) :
    groups? ([':', ':', 'f', 'f', 'f', 'f', ':'] ++
      dotted (octetsOfGroup high ++ octetsOfGroup low)) =
        some [0, 0, 0, 0, 0, 0xffff, high, low] := by
  have four : (octetsOfGroup high ++ octetsOfGroup low).length = 4 := rfl
  have uncoloned : ':' ∉ dotted (octetsOfGroup high ++ octetsOfGroup low) := by
    intro member
    rcases mem_dotted member with impossible | impossible <;> cases impossible
  have parts : Text.fields ':' (['f', 'f', 'f', 'f'] ++
      ':' :: dotted (octetsOfGroup high ++ octetsOfGroup low)) =
        [['f', 'f', 'f', 'f'], dotted (octetsOfGroup high ++ octetsOfGroup low)] := by
    rw [Text.fields_append (by decide), Text.fields_of_absent uncoloned]
  have back : trailingGroups? [['f', 'f', 'f', 'f'],
      dotted (octetsOfGroup high ++ octetsOfGroup low)] = some [0xffff, high, low] := by
    have marker : group? ['f', 'f', 'f', 'f'] = some 0xffff := by decide
    have octets := octets?_dotted four
    simp only [octetsOfGroup, List.cons_append, List.nil_append] at octets ⊢
    simp only [trailingGroups?, marker, octets, groupOfOctets_octetsOfGroup]
    rfl
  unfold groups?
  simp only [List.cons_append, List.nil_append, splitCompressed] at parts ⊢
  simp [colonFields, parts, back]

private theorem groups?_groupsText {groups : List UInt16} (eight : groups.length = 8) :
    groups? (groupsText groups) = some groups := by
  unfold groupsText
  split
  · exact groups?_embedded _ _
  · obtain ⟨inside, filled⟩ := longestZeroRun_spec groups
    generalize longestZeroRun groups = run at inside filled
    obtain ⟨start, length⟩ := run
    simp only at inside filled ⊢
    split
    · exact groups?_coloned
    · have front : (groups.take start).length = start := List.length_take_of_le (by omega)
      have back : (groups.drop (start + length)).length = 8 - (start + length) := by
        rw [List.length_drop, eight]
      have left : 8 - (start + (8 - (start + length))) = length := by omega
      rw [groups?_compressed (by omega), front, back, left, filled]

/-!
## Characters of a text
-/

private theorem mem_coloned {groups : List UInt16} {c : Char} (member : c ∈ coloned groups) :
    c = ':' ∨ (Text.hexDigit? c).isSome = true := by
  rcases mem_joined member with mark | ⟨part, found, inside⟩
  · exact .inl mark
  · obtain ⟨group, _, rfl⟩ := List.mem_map.mp found
    exact .inr (Text.hexDigit?_of_mem_toDigits inside)

private theorem colon_mem_groupsText {groups : List UInt16} (eight : groups.length = 8) :
    ':' ∈ groupsText groups := by
  unfold groupsText
  split
  · exact List.mem_cons_self
  · simp only
    split
    · match groups, eight with
      | first :: second :: rest, _ => simp [coloned, joined_cons_cons]
    · simp

/-- Dots, colons and hexadecimal digits are all that a text has. -/
theorem mem_text {address : Address} {c : Char} (member : c ∈ address.text) :
    c = '.' ∨ c = ':' ∨ (Text.hexDigit? c).isSome = true := by
  have ofDotted : ∀ octets, c ∈ dotted octets →
      c = '.' ∨ c = ':' ∨ (Text.hexDigit? c).isSome = true := by
    intro octets inside
    rcases mem_dotted inside with mark | digit
    · exact .inl mark
    · exact .inr (.inr (Text.hexDigit?_of_isDigit digit))
  cases address with
  | v4 octets four => exact ofDotted octets member
  | v6 groups eight =>
      simp only [text, groupsText] at member
      split at member
      · have ofMarker : ∀ mark ∈ [':', ':', 'f', 'f', 'f', 'f', ':'],
            mark = ':' ∨ mark = 'f' := by simp
        rcases List.mem_append.mp member with marker | inside
        · rcases ofMarker c marker with rfl | rfl
          · exact .inr (.inl rfl)
          · exact .inr (.inr rfl)
        · exact ofDotted _ inside
      · split at member
        · exact .inr (mem_coloned member)
        · rw [List.mem_append, List.mem_cons, List.mem_cons] at member
          rcases member with front | mark | mark | back
          · exact .inr (mem_coloned front)
          · exact .inr (.inl mark)
          · exact .inr (.inl mark)
          · exact .inr (mem_coloned back)

/-!
## Reading back
-/

theorem ofText?_text (address : Address) : ofText? address.text = some address := by
  unfold ofText?
  cases address with
  | v4 octets four =>
      simp only [text, octets?_dotted four, four, dite_true]
  | v6 groups eight =>
      simp only [text, octets?_of_colon (colon_mem_groupsText eight), groups?_groupsText eight,
        eight, dite_true]

example : ofText? "0:0:1::2".toList = some (.v6 [0, 0, 1, 0, 0, 0, 0, 2] rfl) := by decide

theorem isBlank_of_mem_text {address : Address} {c : Char} (member : c ∈ address.text) :
    Text.isBlank c = false := by
  rcases mem_text member with rfl | rfl | digit
  · rfl
  · rfl
  · exact Text.isBlank_of_hexDigit? digit

theorem hostOfText?_text (address : Address) : hostOfText? address.text = some address := by
  have whole : '/' ∉ address.text := by
    intro member
    rcases mem_text member with impossible | impossible | impossible <;> cases impossible
  unfold hostOfText?
  rw [Text.splitOnce_eq_none_iff.mpr whole]
  exact ofText?_text address

end ForeignTable.Address
