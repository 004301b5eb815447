import ForeignTable.Binding
import ForeignTable.Datum.Input
import ForeignTable.Proofs.Address
import ForeignTable.Proofs.Text.Numeral
import ForeignTable.Proofs.Uuid

/-! Scalar values through the remote store. What a column of an integer, truth value, text,
identifier or address type may hold is bound, shown and read as the same value. -/

set_option autoImplicit false

namespace ForeignTable

/-- The values that a scalar column type admits, its length limit included. -/
inductive ColumnType.Admits : ColumnType → Datum → Prop where
  | smallint (value : Signed 16) : Admits .smallint (.smallint value)
  | integer (value : Signed 32) : Admits .integer (.integer value)
  | bigint (value : Signed 64) : Admits .bigint (.bigint value)
  | boolean (value : Bool) : Admits .boolean (.boolean value)
  | text (value : String) : Admits .text (.text value)
  | varchar (limit : Option Nat) (value : String)
      (within : ∀ count ∈ limit, value.length ≤ count) : Admits (.varchar limit) (.text value)
  | bpchar (limit : Option Nat) (value : String)
      (filled : ∀ count ∈ limit, value.length = count) : Admits (.bpchar limit) (.text value)
  | uuid (value : Uuid) : Admits .uuid (.uuid value)
  | inet (value : Address) : Admits .inet (.inet value)

namespace Datum

/-!
## Input conversion of the shown texts
-/

theorem integerOfText_integerText {bits : Nat} (build : Signed bits → Datum)
    (columnType : ColumnType) (word : Signed bits) :
    integerOfText bits build columnType (String.ofList (Text.integerText word.toInt)) =
      .ok (build word) := by
  unfold integerOfText
  rw [String.toList_ofList, Text.trim_integerText, Text.integer?_integerText]
  simp only [Signed.ofInt?_toInt]

private theorem boolean?_word (value : Bool) :
    boolean? (Text.trim (if value then "true" else "false").toList) = some value := by
  cases value <;> decide

theorem limited?_of_within {limit : Option Nat} {text : List Char}
    (within : ∀ count ∈ limit, text.length ≤ count) : limited? limit text = some text := by
  cases limit with
  | none => rfl
  | some count =>
      have short := within count rfl
      simp [limited?, List.drop_eq_nil_of_le short, List.take_of_length_le short]

theorem padded_of_filled {limit : Option Nat} {text : List Char}
    (filled : ∀ count ∈ limit, text.length = count) : padded limit text = text := by
  cases limit with
  | none => simp [padded]
  | some count => simp [padded, filled count rfl]

end Datum

/-!
## Shown and read
-/

namespace Remote.Value

def ReadsAs (value : Value) (zone : Zone) (columnType : ColumnType) (datum : Datum) : Prop :=
  ∃ text, value.render = .ok text ∧ Datum.ofText zone columnType text = .ok datum

variable (zone : Zone)

private theorem readsAs_of_appended {value : Value} {shown : String} {columnType : ColumnType}
    {datum : Datum} (appended : value.render = .ok ("" ++ shown))
    (read : Datum.ofText zone columnType shown = .ok datum) :
    value.ReadsAs zone columnType datum := by
  rw [String.empty_append] at appended
  exact ⟨shown, appended, read⟩

theorem readsAs_smallint (word : Signed 16) :
    (smallint word).ReadsAs zone .smallint (.smallint word) :=
  readsAs_of_appended zone rfl (Datum.integerOfText_integerText _ _ word)

theorem readsAs_integer (word : Signed 32) :
    (int word).ReadsAs zone .integer (.integer word) :=
  readsAs_of_appended zone rfl (Datum.integerOfText_integerText _ _ word)

theorem readsAs_bigint (word : Signed 64) :
    (bigint word).ReadsAs zone .bigint (.bigint word) :=
  readsAs_of_appended zone rfl (Datum.integerOfText_integerText _ _ word)

theorem readsAs_boolean (value : Bool) :
    (boolean value).ReadsAs zone .boolean (.boolean value) := by
  apply readsAs_of_appended zone rfl
  simp only [Datum.ofText, Datum.boolean?_word]
  rfl

theorem readsAs_text (value : String) : (text value).ReadsAs zone .text (.text value) :=
  readsAs_of_appended zone rfl rfl

private theorem readsAs_varchar {limit : Option Nat} {value : String}
    (within : ∀ count ∈ limit, value.length ≤ count) :
    (text value).ReadsAs zone (.varchar limit) (.text value) := by
  apply readsAs_of_appended zone rfl
  simp only [Datum.ofText, Datum.limited?_of_within within, String.ofList_toList]

private theorem readsAs_bpchar {limit : Option Nat} {value : String}
    (filled : ∀ count ∈ limit, value.length = count) :
    (text value).ReadsAs zone (.bpchar limit) (.text value) := by
  have within : ∀ count ∈ limit, value.length ≤ count := by
    intro count bound
    exact Nat.le_of_eq (filled count bound)
  apply readsAs_of_appended zone rfl
  simp only [Datum.ofText, Datum.limited?_of_within within, Datum.padded_of_filled filled,
    String.ofList_toList]

theorem readsAs_uuid (identifier : Uuid) :
    (uuid identifier).ReadsAs zone .uuid (.uuid identifier) := by
  have clean : Text.trim identifier.text = identifier.text := by
    apply Text.trim_of_unblank
    intro c member
    rcases Uuid.mem_text member with rfl | digit
    · rfl
    · exact Text.isBlank_of_hexDigit? digit
  apply readsAs_of_appended zone rfl
  simp only [Datum.ofText, String.toList_ofList, clean, Uuid.ofText?_text]
  rfl

theorem readsAs_inet (address : Address) :
    (inet address).ReadsAs zone .inet (.inet address) := by
  have clean : Text.trim address.text = address.text := by
    apply Text.trim_of_unblank
    intro c member
    exact Address.isBlank_of_mem_text member
  apply readsAs_of_appended zone rfl
  simp only [Datum.ofText, String.toList_ofList, clean, Address.hostOfText?_text]
  rfl

end Remote.Value

/-!
## There and back
-/

private theorem ColumnType.Admits.exchanged {columnType : ColumnType} {datum : Datum}
    (admitted : columnType.Admits datum) (zone : Zone) :
    ∃ value, columnType.bind zone (some datum) = .ok (some value) ∧
      value.ReadsAs zone columnType datum := by
  cases admitted with
  | smallint word => exact ⟨_, rfl, Remote.Value.readsAs_smallint zone word⟩
  | integer word => exact ⟨_, rfl, Remote.Value.readsAs_integer zone word⟩
  | bigint word => exact ⟨_, rfl, Remote.Value.readsAs_bigint zone word⟩
  | boolean value => exact ⟨_, rfl, Remote.Value.readsAs_boolean zone value⟩
  | text value => exact ⟨_, rfl, Remote.Value.readsAs_text zone value⟩
  | varchar limit value within => exact ⟨_, rfl, Remote.Value.readsAs_varchar zone within⟩
  | bpchar limit value filled => exact ⟨_, rfl, Remote.Value.readsAs_bpchar zone filled⟩
  | uuid identifier => exact ⟨_, rfl, Remote.Value.readsAs_uuid zone identifier⟩
  | inet address => exact ⟨_, rfl, Remote.Value.readsAs_inet zone address⟩

/-- A scalar value goes out as a value that is not null and comes back unchanged. -/
theorem scalar_survives {columnType : ColumnType} {datum : Datum}
    (admitted : columnType.Admits datum) (zone : Zone) :
    ∃ value text, columnType.bind zone (some datum) = .ok (some value) ∧
      value.render = .ok text ∧ Datum.ofText zone columnType text = .ok datum := by
  obtain ⟨value, bound, text, rendered, read⟩ := admitted.exchanged zone
  exact ⟨value, text, bound, rendered, read⟩

/-- A padded text outside ASCII, and an address with an embedded one. -/
theorem scalar_survives_padded_embedded :
    (∃ value text, (ColumnType.bpchar (some 4)).bind Zone.utc (some (.text " ü  ")) =
        .ok (some value) ∧ value.render = .ok text ∧
        Datum.ofText Zone.utc (.bpchar (some 4)) text = .ok (.text " ü  ")) ∧
      ∃ value text, ColumnType.inet.bind Zone.utc
          (some (.inet (.v6 [0, 0, 0, 0, 0, 0xffff, 0xc000, 0x201] rfl))) = .ok (some value) ∧
        value.render = .ok text ∧
        Datum.ofText Zone.utc .inet text =
          .ok (.inet (.v6 [0, 0, 0, 0, 0, 0xffff, 0xc000, 0x201] rfl)) := by
  have padded : (ColumnType.bpchar (some 4)).Admits (.text " ü  ") := by
    apply ColumnType.Admits.bpchar
    intro count bound
    cases bound
    decide
  exact ⟨scalar_survives padded Zone.utc, scalar_survives (.inet _) Zone.utc⟩

end ForeignTable
