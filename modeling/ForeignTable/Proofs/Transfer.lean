import ForeignTable.Proofs.Attempt
import ForeignTable.Proofs.Timestamp.Range
import ForeignTable.Remote.Value

/-! Texts of remote values in one buffer. A value adds its own text behind what the buffer holds, or
nothing when it has none, so a run over values leaves the texts of those that succeeded. -/

set_option autoImplicit false

namespace ForeignTable

namespace Remote.Value

variable {value : Value} {buffer text : String} {failure : Error}

/-!
## One value
-/

theorem render_timestamp (millis : Signed 64) :
    (timestamp millis).render = (Timestamp.remoteText millis).map String.ofList := by
  simp only [render, appendText, transfer]
  cases Timestamp.remoteText millis with
  | error failure => rfl
  | ok civil => exact congrArg Except.ok String.empty_append

/-- Only a timestamp has no text. -/
theorem render_eq_error_iff :
    value.render = .error failure ↔
      ∃ millis, value = .timestamp millis ∧ Timestamp.remoteText millis = .error failure := by
  cases value with
  | timestamp millis => simp [render_timestamp, Attempt.map_eq_error_iff]
  | _ => simp [render, appendText, transfer]

/-- What a value adds to a buffer: its text, or nothing if it has none. -/
def added (value : Value) : String := value.render.toOption.getD ""

/-- The buffer stays in front. Whether the value succeeds, and what it adds, is its own affair. -/
theorem transfer_eq (buffer : String) (value : Value) :
    value.transfer buffer = (value.render.map fun _ => (), buffer ++ value.added) := by
  cases value with
  | timestamp millis =>
      simp only [added, transfer, render_timestamp]
      cases Timestamp.remoteText millis with
      | error failure => simp [pushText, Except.map, Except.toOption]
      | ok civil => rfl
  | _ => simp [added, render, appendText, transfer, Except.map, Except.toOption]

theorem transfer_eq_ok_iff :
    value.transfer buffer = (.ok (), buffer ++ text) ↔ value.render = .ok text := by
  rw [transfer_eq, added]
  cases value.render <;> simp [Except.map, Except.toOption]

theorem transfer_eq_error_iff :
    value.transfer buffer = (.error failure, buffer) ↔ value.render = .error failure := by
  rw [transfer_eq, added]
  cases value.render <;> simp [Except.map, Except.toOption]

def IsCollection : Value → Prop
  | list _ | set _ | map _ => True
  | _ => False

private theorem render_of_isCollection (collection : value.IsCollection) :
    value.render = .ok unhandled := by
  cases value with
  | list | set | map => rfl
  | _ => exact collection.elim

/-!
## Several values
-/

/-- What the buffer holds after several values, whatever became of each of them. -/
def bufferAfter (buffer : String) (values : List Value) : String :=
  values.foldl (fun held value => (value.transfer held).2) buffer

def texts (values : List Value) : List String :=
  values.filterMap fun value => value.render.toOption

def failure? (value : Value) : Option Error :=
  match value.render with
  | .ok _ => none
  | .error failure => some failure

private theorem join_texts_cons (value : Value) (rest : List Value) :
    String.join (texts (value :: rest)) = value.added ++ String.join (texts rest) := by
  unfold texts added
  cases shown : value.render <;> simp [shown, Except.toOption]

private theorem bufferAfter_cons (buffer : String) (value : Value) (rest : List Value) :
    bufferAfter buffer (value :: rest) = bufferAfter (value.transfer buffer).2 rest := rfl

private theorem bufferAfter_eq (buffer : String) (values : List Value) :
    bufferAfter buffer values = buffer ++ String.join (texts values) := by
  induction values generalizing buffer with
  | nil => exact String.append_empty.symm
  | cons value rest ih =>
      rw [bufferAfter_cons, ih, transfer_eq, join_texts_cons, String.append_assoc]

private theorem appendTexts_cons (buffer : String) (value : Value) (rest : List Value) :
    appendTexts buffer (value :: rest) =
      ((value.transfer buffer).2, value.failure?) :: appendTexts (value.transfer buffer).2 rest := by
  rw [appendTexts, transfer_eq, failure?]
  cases value.render <;> rfl

/-- Each value is reported with what the buffer holds after it and the values before it. -/
theorem appendTexts_eq (buffer : String) (values : List Value) :
    appendTexts buffer values = values.mapIdx fun position value =>
      (bufferAfter buffer (values.take (position + 1)), value.failure?) := by
  induction values generalizing buffer with
  | nil => rfl
  | cons value rest ih =>
      rw [appendTexts_cons, ih, List.mapIdx_cons]
      rfl

/-- Values only add to a buffer. A run leaves the texts of the values that succeeded behind what was
there, in their order, and so does every part of it; a value that fails adds nothing. It fails as a
timestamp outside the calendar and in no other way, whatever the buffer holds. -/
theorem transfers_append_only (buffer : String) (values : List Value) :
    bufferAfter buffer values = buffer ++ String.join (texts values) ∧
    (appendTexts buffer values = values.mapIdx fun position value =>
      (buffer ++ String.join (texts (values.take (position + 1))), value.failure?)) ∧
    ∀ (held : String) (value : Value),
      (∀ text, value.transfer held = (.ok (), held ++ text) ↔ value.render = .ok text) ∧
      (∀ failure, value.transfer held = (.error failure, held) ↔ value.render = .error failure) ∧
      (∀ failure, value.render = .error failure ↔ ∃ millis, value = .timestamp millis ∧
        ¬InCalendar (millis.toInt / 1000) ∧
        failure = .conversion (.remoteTimestampRange millis.toInt)) ∧
      (value.IsCollection → value.transfer held = (.ok (), held ++ unhandled)) := by
  refine ⟨bufferAfter_eq buffer values, ?_, ?_⟩
  · simp only [appendTexts_eq, bufferAfter_eq]
  · intro held value
    refine ⟨fun _ => transfer_eq_ok_iff, fun _ => transfer_eq_error_iff, ?_, ?_⟩
    · intro failure
      simp only [render_eq_error_iff, Timestamp.remoteText_eq_error_iff]
    · intro collection
      exact transfer_eq_ok_iff.mpr (render_of_isCollection collection)

/-- A number, a timestamp of a far year, nested collections, a word and the first day of 1970. -/
def sightings : List Value :=
  [.int ⟨-7, by decide, by decide⟩, .timestamp ⟨253402300800000, by decide, by decide⟩,
    .map [(.text "a", .list [.set [.boolean true]])], .text " seen ",
    .timestamp ⟨999, by decide, by decide⟩]

theorem transfers_append_only_sightings :
    texts sightings = ["-7", "<unhandled type>", " seen ", "1970-01-01 00:00:00 UTC"] ∧
      bufferAfter "> " sightings = "> -7<unhandled type> seen 1970-01-01 00:00:00 UTC" ∧
      Value.IsCollection (.map [(.text "a", .list [.set [.boolean true]])]) ∧
      (Value.map [(.text "a", .list [.set [.boolean true]])]).transfer "> -7" =
        (.ok (), "> -7<unhandled type>") := by
  obtain ⟨whole, _, each⟩ := transfers_append_only "> " sightings
  obtain ⟨_, _, _, nested⟩ := each "> -7" (.map [(.text "a", .list [.set [.boolean true]])])
  have shown : texts sightings =
      ["-7", "<unhandled type>", " seen ", "1970-01-01 00:00:00 UTC"] := by decide +kernel
  refine ⟨shown, ?_, trivial, nested trivial⟩
  rw [whole, shown]
  decide +kernel

end Remote.Value

end ForeignTable
