import Mathlib.Data.List.Nodup
import ForeignTable.Options
import ForeignTable.Proofs.Attempt
import ForeignTable.Proofs.Text.Numeral

/-! Acceptance of option lists. A list is checked option after option, with the names so far in
view; which lists pass is a matter of their options alone. -/

set_option autoImplicit false

namespace ForeignTable

/-!
## Values
-/

/-- The text of a port: digits with at most one plus sign in front, between blanks, for a number
from 1 to 65535. -/
def PortText (text : String) (port : Nat) : Prop :=
  ∃ before sign digits after, text.toList = before ++ (sign ++ digits) ++ after ∧
    (∀ c ∈ before ++ after, Text.isBlank c = true) ∧ (sign = [] ∨ sign = ['+']) ∧
    digits ≠ [] ∧ (∀ c ∈ digits, c.isDigit = true) ∧ Nat.ofDigitChars 10 digits 0 = port ∧
    1 ≤ port ∧ port ≤ 65535

theorem port?_eq_some_iff {text : String} {port : Nat} :
    port? text = some port ↔ PortText text port := by
  simp only [port?, Option.filter_eq_some_iff, Text.unsigned?_eq_some_iff,
    Text.natural?_eq_some_iff, decide_eq_true_eq]
  constructor
  · intro ⟨⟨sign, digits, trimmed, signed, ⟨filled, all, denoted⟩, inside⟩, positive⟩
    obtain ⟨before, after, shape, blank⟩ := Text.exists_trim text.toList
    rw [trimmed] at shape
    refine ⟨before, sign, digits, after, shape, blank, signed, filled, ?_, denoted, ?_, ?_⟩
    · exact List.all_eq_true.mp all
    · omega
    · omega
  · intro ⟨before, sign, digits, after, shape, blank, signed, filled, all, denoted, low, high⟩
    have clean : ∀ c ∈ sign ++ digits, Text.isBlank c = false := by
      intro c member
      cases List.mem_append.mp member with
      | inr digit => exact Text.isBlank_of_isDigit (all c digit)
      | inl front =>
          cases signed with
          | inl none =>
              subst none
              cases front
          | inr plus =>
              subst plus
              cases List.mem_singleton.mp front
              rfl
    have trimmed : Text.trim text.toList = sign ++ digits := by
      rw [shape]
      exact Text.trim_between blank clean
    refine ⟨⟨sign, digits, trimmed, signed, ⟨filled, List.all_eq_true.mpr all, denoted⟩, ?_⟩, ?_⟩
    · omega
    · omega

theorem portOfValue_eq_ok_iff {text : String} {port : Nat} :
    portOfValue text = .ok port ↔ PortText text port := by
  rw [← port?_eq_some_iff, portOfValue]
  cases port? text <;> simp

/-- The text of a level for a use: its name, and no read asks for `ANY`. -/
def LevelText (use : LevelUse) (text : String) (level : Consistency) : Prop :=
  level.name = text ∧ (use = .reading → level ≠ .any)

theorem ofName_eq_ok_iff {use : LevelUse} {text : String} {level : Consistency} :
    Consistency.ofName use text = .ok level ↔ LevelText use text level := by
  unfold Consistency.ofName LevelText
  rw [← Consistency.ofName?_eq_some_iff]
  cases named : Consistency.ofName? text with
  | none => simp
  | some other =>
      dsimp only
      rw [Attempt.guard_eq_ok_iff, not_and, Option.some.injEq, Except.ok.injEq]
      constructor
      · intro ⟨allowed, same⟩
        exact ⟨same, same ▸ allowed⟩
      · intro ⟨same, allowed⟩
        exact ⟨same ▸ allowed, same⟩

/-!
## Acceptance
-/

namespace OptionContext

structure Takes (context : OptionContext) (names : List String) : Prop where
  known : ∀ name ∈ names, name ∈ context.validNames
  distinct : names.Nodup
  exclusive : ¬("query" ∈ names ∧ "table_name" ∈ names)

/-- What an option list has to be, without regard to its order. -/
structure Accepts (context : OptionContext) (options : OptionList) : Prop where
  names : context.Takes (options.map Prod.fst)
  ports : ∀ text, ("port", text) ∈ options → ∃ port, PortText text port
  readLevels : ∀ text, ("read_consistency", text) ∈ options →
    ∃ level, LevelText .reading text level
  writeLevels : ∀ text, ("write_consistency", text) ∈ options →
    ∃ level, LevelText .writing text level
  target : context = .server → "host" ∈ options.map Prod.fst
  source : context = .table →
    "table_name" ∈ options.map Prod.fst ∨ "query" ∈ options.map Prod.fst

variable {context : OptionContext} {names seen : List String} {options permuted : OptionList}

private theorem Takes.of_subset {more : List String} (takes : context.Takes more)
    (among : names ⊆ more) (distinct : names.Nodup) : context.Takes names where
  known name member := takes.known name (among member)
  distinct := distinct
  exclusive both := takes.exclusive ⟨among both.1, among both.2⟩

theorem Takes.perm {others : List String} (takes : context.Takes names)
    (same : names.Perm others) : context.Takes others :=
  takes.of_subset same.symm.subset (same.nodup_iff.mp takes.distinct)

private theorem takes_cons (before : context.Takes seen) {name : String} :
    context.Takes (name :: seen) ↔
      name ∈ context.validNames ∧ ¬(name = "query" ∧ "table_name" ∈ seen) ∧
        ¬(name = "table_name" ∧ "query" ∈ seen) ∧ name ∉ seen := by
  constructor
  · intro ⟨known, distinct, exclusive⟩
    refine ⟨known name List.mem_cons_self, ?_, ?_, (List.nodup_cons.mp distinct).1⟩
    · intro ⟨same, there⟩
      subst same
      exact exclusive ⟨List.mem_cons_self, List.mem_cons_of_mem _ there⟩
    · intro ⟨same, there⟩
      subst same
      exact exclusive ⟨List.mem_cons_of_mem _ there, List.mem_cons_self⟩
  · intro ⟨known, lone, own, fresh⟩
    refine ⟨?_, List.nodup_cons.mpr ⟨fresh, before.distinct⟩, ?_⟩
    · exact List.forall_mem_cons.mpr ⟨known, before.known⟩
    · intro ⟨one, other⟩
      rcases List.mem_cons.mp one with here | there
      · rcases List.mem_cons.mp other with again | after
        · exact absurd (here.trans again.symm) (by decide)
        · exact lone ⟨here.symm, after⟩
      · rcases List.mem_cons.mp other with here | after
        · exact own ⟨here.symm, there⟩
        · exact before.exclusive ⟨there, after⟩

/-- The check of a name keeps what holds of the names before it, and asks for nothing else. -/
theorem checkName_eq_ok_iff (before : context.Takes seen) {name : String} :
    context.checkName seen name = .ok () ↔ context.Takes (name :: seen) := by
  rw [takes_cons before]
  simp only [checkName, Attempt.guard_eq_ok_iff]
  simp

theorem checkValue_eq_ok_iff {name text : String} :
    checkValue name text = .ok () ↔
      (name = "port" → ∃ port, PortText text port) ∧
      (name = "read_consistency" → ∃ level, LevelText .reading text level) ∧
      (name = "write_consistency" → ∃ level, LevelText .writing text level) := by
  unfold checkValue
  split
  · simp [Attempt.map_eq_ok_iff, portOfValue_eq_ok_iff]
  · simp [Attempt.map_eq_ok_iff, ofName_eq_ok_iff]
  · simp [Attempt.map_eq_ok_iff, ofName_eq_ok_iff]
  · rename_i port reading writing
    exact ⟨fun _ => ⟨(absurd · port), (absurd · reading), (absurd · writing)⟩, fun _ => rfl⟩

/-- The names seen so far may stand together, and the check goes on until all names do. -/
theorem checkEach_eq_ok_iff (before : context.Takes seen) :
    context.checkEach seen options = .ok () ↔
      context.Takes (options.map Prod.fst ++ seen) ∧
        ∀ option ∈ options, checkValue option.1 option.2 = .ok () := by
  induction options generalizing seen with
  | nil => simp [checkEach, before]
  | cons option rest ih =>
      obtain ⟨name, text⟩ := option
      -- the name that has just been seen leaves the list for the names before it
      have moved : (rest.map Prod.fst ++ name :: seen).Perm (name :: (rest.map Prod.fst ++ seen)) :=
        List.perm_middle
      rw [checkEach, Attempt.bind_eq_ok_iff, List.forall_mem_cons, List.map_cons,
        List.cons_append]
      constructor
      · intro ⟨_, named, continuation⟩
        obtain ⟨_, valued, later⟩ := Attempt.bind_eq_ok_iff.mp continuation
        obtain ⟨together, values⟩ := (ih ((checkName_eq_ok_iff before).mp named)).mp later
        exact ⟨together.perm moved, valued, values⟩
      · intro ⟨together, valued, values⟩
        have among : (name :: seen).Sublist (name :: (rest.map Prod.fst ++ seen)) :=
          (List.sublist_append_right _ seen).cons_cons name
        have taken : context.Takes (name :: seen) :=
          together.of_subset among.subset (together.distinct.sublist among)
        refine ⟨(), (checkName_eq_ok_iff before).mpr taken, ?_⟩
        refine Attempt.bind_eq_ok_iff.mpr ⟨(), valued, ?_⟩
        exact (ih taken).mpr ⟨together.perm moved.symm, values⟩

theorem checkRequired_eq_ok_iff :
    context.checkRequired names = .ok () ↔
      (context = .server → "host" ∈ names) ∧
        (context = .table → "table_name" ∈ names ∨ "query" ∈ names) := by
  cases context <;> simp [checkRequired, or_iff_not_imp_left]

theorem validate_eq_ok_iff : context.validate options = .ok () ↔ context.Accepts options := by
  have nothing : context.Takes [] := ⟨nofun, .nil, fun both => nomatch both.1⟩
  rw [validate, Attempt.bind_eq_ok_iff]
  simp only [checkEach_eq_ok_iff nothing, checkRequired_eq_ok_iff, checkValue_eq_ok_iff,
    List.append_nil]
  constructor
  · intro ⟨_, ⟨names, values⟩, target, source⟩
    refine ⟨names, ?_, ?_, ?_, target, source⟩
    · intro text given
      exact (values _ given).1 rfl
    · intro text given
      exact (values _ given).2.1 rfl
    · intro text given
      exact (values _ given).2.2 rfl
  · intro ⟨names, ports, readLevels, writeLevels, target, source⟩
    refine ⟨(), ⟨names, ?_⟩, target, source⟩
    intro (name, text) given
    refine ⟨?_, ?_, ?_⟩
    · intro same
      exact ports text (same ▸ given)
    · intro same
      exact readLevels text (same ▸ given)
    · intro same
      exact writeLevels text (same ▸ given)

theorem validate_bind_eq_ok_iff {Typed : Type} {next : Unit → Except Error Typed}
    {typed : Typed} :
    context.validate options >>= next = .ok typed ↔
      context.Accepts options ∧ next () = .ok typed := by
  rw [Attempt.bind_eq_ok_iff, ← validate_eq_ok_iff]
  exact ⟨fun ⟨_, checked, later⟩ => ⟨checked, later⟩, fun ⟨checked, later⟩ => ⟨(), checked, later⟩⟩

theorem Accepts.perm (accepts : context.Accepts options) (same : options.Perm permuted) :
    context.Accepts permuted := by
  have names : (options.map Prod.fst).Perm (permuted.map Prod.fst) := same.map Prod.fst
  obtain ⟨together, ports, readLevels, writeLevels, target, source⟩ := accepts
  refine ⟨together.perm names, ?_, ?_, ?_, ?_, ?_⟩
  · simpa only [same.mem_iff] using ports
  · simpa only [same.mem_iff] using readLevels
  · simpa only [same.mem_iff] using writeLevels
  · simpa only [names.mem_iff] using target
  · simpa only [names.mem_iff] using source

end OptionContext

end ForeignTable
