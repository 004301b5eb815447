import Mathlib.Data.List.Forall2

/-! Inversion of attempts. An attempt is a value of `Except`; these laws say what a
chain or traversal of attempts went through. -/

set_option autoImplicit false

namespace ForeignTable.Attempt

variable {Failure Source Value Result : Type}

theorem bind_eq_ok_iff {attempt : Except Failure Value}
    {next : Value → Except Failure Result} {result : Result} :
    attempt >>= next = .ok result ↔
      ∃ value, attempt = .ok value ∧ next value = .ok result := by
  cases attempt with
  | error failure => simp [bind, Except.bind]
  | ok value => simp [bind, Except.bind]

theorem bind_eq_error_iff {attempt : Except Failure Value}
    {next : Value → Except Failure Result} {failure : Failure} :
    attempt >>= next = .error failure ↔
      attempt = .error failure ∨ ∃ value, attempt = .ok value ∧ next value = .error failure := by
  cases attempt with
  | error other => simp [bind, Except.bind]
  | ok value => simp [bind, Except.bind]

theorem map_eq_ok_iff {attempt : Except Failure Value} {change : Value → Result}
    {result : Result} :
    attempt.map change = .ok result ↔ ∃ value, attempt = .ok value ∧ change value = result := by
  cases attempt with
  | error failure => simp [Except.map]
  | ok value => simp [Except.map]

theorem map_eq_error_iff {attempt : Except Failure Value} {change : Value → Result}
    {failure : Failure} : attempt.map change = .error failure ↔ attempt = .error failure := by
  cases attempt with
  | error other => simp [Except.map]
  | ok value => simp [Except.map]

theorem exists_bind_pure_iff {attempt : Except Failure Value} {change : Value → Result} :
    (∃ result, (attempt >>= fun value => pure (change value)) = .ok result) ↔
      ∃ value, attempt = .ok value := by
  cases attempt with
  | error failure => simp [bind, Except.bind]
  | ok value => simp [bind, Except.bind, pure, Except.pure]

theorem guard_eq_ok_iff {refused : Prop} [Decidable refused] {failure : Failure}
    {attempt : Except Failure Value} {value : Value} :
    (if refused then .error failure else attempt) = .ok value ↔
      ¬refused ∧ attempt = .ok value := by
  split
  · rename_i holds
    simp [holds]
  · rename_i fails
    simp [fails]

/-- A traversal succeeds exactly when every attempt does, item by item. -/
theorem mapM_eq_ok_iff {attempt : Source → Except Failure Value} {items : List Source}
    {values : List Value} :
    items.mapM attempt = .ok values ↔
      List.Forall₂ (fun item value => attempt item = .ok value) items values := by
  induction items generalizing values with
  | nil => cases values <;> simp [pure, Except.pure]
  | cons item rest ih =>
      rw [List.mapM_cons, bind_eq_ok_iff]
      constructor
      · rintro ⟨value, first, continuation⟩
        obtain ⟨others, remaining, shape⟩ := bind_eq_ok_iff.mp continuation
        cases shape
        exact .cons first (ih.mp remaining)
      · intro pointwise
        cases pointwise with
        | @cons _ value _ others first remaining =>
            exact ⟨value, first, bind_eq_ok_iff.mpr ⟨others, ih.mpr remaining, rfl⟩⟩

theorem mapM_eq_ok_iff_of_mem {attempt : Source → Except Failure Value}
    {holds : Source → Value → Prop} {items : List Source} {values : List Value}
    (each : ∀ item ∈ items, ∀ value, attempt item = .ok value ↔ holds item value) :
    items.mapM attempt = .ok values ↔ List.Forall₂ holds items values := by
  rw [mapM_eq_ok_iff]
  constructor
  · intro succeeded
    refine ((List.forall₂_and_left _ _).mpr ⟨each, succeeded⟩).imp ?_
    intro item value ⟨same, success⟩
    exact (same value).mp success
  · intro held
    refine ((List.forall₂_and_left _ _).mpr ⟨each, held⟩).imp ?_
    intro item value ⟨same, here⟩
    exact (same value).mpr here

/-- Traversals agree when their attempts do, item by item, down to the failure. -/
theorem mapM_eq_mapM {Other : Type} {first : Source → Except Failure Value}
    {second : Other → Except Failure Value} {items : List Source} {others : List Other}
    (same : List.Forall₂ (fun item other => first item = second other) items others) :
    items.mapM first = others.mapM second := by
  induction same with
  | nil => rfl
  | cons here _ ih => rw [List.mapM_cons, List.mapM_cons, here, ih]

theorem mapM_congr {first second : Source → Except Failure Value} {items : List Source}
    (same : ∀ item ∈ items, first item = second item) : items.mapM first = items.mapM second :=
  mapM_eq_mapM (List.forall₂_same.mpr same)

/-- What every attempt of a traversal is followed by can be done behind the traversal. -/
theorem mapM_map (attempt : Source → Except Failure Value) (change : Value → Result)
    (items : List Source) :
    (items.mapM fun item => (attempt item).map change) =
      (items.mapM attempt).map (List.map change) := by
  induction items with
  | nil => rfl
  | cons item rest ih =>
      rw [List.mapM_cons, List.mapM_cons, ih]
      cases attempt item with
      | error failure => rfl
      | ok value => cases rest.mapM attempt <;> rfl

/-- Steps that change a state by what was attempted, whatever the state is, can come behind all the
attempts. -/
theorem foldlM_map {State : Type} (attempt : Source → Except Failure Value)
    (change : State → Value → State) (items : List Source) (start : State) :
    items.foldlM (fun state item => (attempt item).map (change state)) start =
      (items.mapM attempt).map fun values => values.foldl change start := by
  induction items generalizing start with
  | nil => rfl
  | cons item rest ih =>
      rw [List.foldlM_cons, List.mapM_cons]
      cases attempt item with
      | error failure => rfl
      | ok value =>
          refine (ih (change start value)).trans ?_
          cases rest.mapM attempt <;> rfl

/-- A traversal succeeds when every attempt does, and its values are those of the attempts. -/
theorem exists_mapM_eq_ok {attempt : Source → Except Failure Value}
    {related : Source → Value → Prop} {items : List Source}
    (each : ∀ item ∈ items, ∃ value, attempt item = .ok value ∧ related item value) :
    ∃ values, items.mapM attempt = .ok values ∧ List.Forall₂ related items values := by
  induction items with
  | nil => exact ⟨[], rfl, .nil⟩
  | cons item rest ih =>
      obtain ⟨⟨value, first, here⟩, later⟩ := List.forall_mem_cons.mp each
      obtain ⟨values, remaining, there⟩ := ih later
      refine ⟨value :: values, ?_, .cons here there⟩
      rw [List.mapM_cons, first, remaining]
      rfl

theorem exists_of_mapM_eq_ok {attempt : Source → Except Failure Value} {items : List Source}
    {values : List Value} (success : items.mapM attempt = .ok values) {item : Source}
    (member : item ∈ items) : ∃ value, attempt item = .ok value := by
  have pointwise := mapM_eq_ok_iff.mp success
  obtain ⟨position, inside, rfl⟩ := List.mem_iff_getElem.mp member
  exact ⟨_, pointwise.get inside (pointwise.length_eq ▸ inside)⟩

theorem exists_mapM_eq_ok_iff {attempt : Source → Except Failure Value} {items : List Source} :
    (∃ values, items.mapM attempt = .ok values) ↔
      ∀ item ∈ items, ∃ value, attempt item = .ok value := by
  constructor
  · intro ⟨values, success⟩ item member
    exact exists_of_mapM_eq_ok success member
  · intro each
    obtain ⟨values, success, _⟩ := exists_mapM_eq_ok fun item member =>
      (each item member).imp fun _ here => ⟨here, here⟩
    exact ⟨values, success⟩

theorem exists_item_of_mapM_eq_ok {attempt : Source → Except Failure Value}
    {items : List Source} {values : List Value} (success : items.mapM attempt = .ok values)
    {value : Value} (member : value ∈ values) : ∃ item ∈ items, attempt item = .ok value := by
  have pointwise := mapM_eq_ok_iff.mp success
  obtain ⟨position, inside, rfl⟩ := List.mem_iff_getElem.mp member
  have within : position < items.length := pointwise.length_eq ▸ inside
  exact ⟨_, List.getElem_mem within, pointwise.get within inside⟩

/-- A traversal gives the value of every attempt. -/
theorem mem_of_mapM_eq_ok {attempt : Source → Except Failure Value} {items : List Source}
    {values : List Value} (success : items.mapM attempt = .ok values) {item : Source}
    (member : item ∈ items) {value : Value} (here : attempt item = .ok value) : value ∈ values := by
  have pointwise := mapM_eq_ok_iff.mp success
  obtain ⟨position, inside, rfl⟩ := List.mem_iff_getElem.mp member
  have within : position < values.length := pointwise.length_eq ▸ inside
  have there : attempt items[position] = .ok values[position] := pointwise.get inside within
  cases here.symm.trans there
  exact List.getElem_mem within

/-- A traversal fails with the first attempt that fails. -/
theorem mapM_eq_error_iff {attempt : Source → Except Failure Value} {items : List Source}
    {failure : Failure} :
    items.mapM attempt = .error failure ↔
      ∃ earlier item later, items = earlier ++ item :: later ∧
        (∀ other ∈ earlier, ∃ value, attempt other = .ok value) ∧
        attempt item = .error failure := by
  induction items with
  | nil => simp [pure, Except.pure]
  | cons item rest ih =>
      rw [List.mapM_cons, bind_eq_error_iff]
      constructor
      · rintro (first | ⟨value, first, continuation⟩)
        · exact ⟨[], item, rest, rfl, nofun, first⟩
        · obtain remaining | ⟨_, _, impossible⟩ := bind_eq_error_iff.mp continuation
          · obtain ⟨earlier, failing, later, rfl, succeeded, failed⟩ := ih.mp remaining
            refine ⟨item :: earlier, failing, later, rfl, ?_, failed⟩
            exact List.forall_mem_cons.mpr ⟨⟨value, first⟩, succeeded⟩
          · cases impossible
      · rintro ⟨earlier, failing, later, shape, succeeded, failed⟩
        cases earlier with
        | nil =>
            cases shape
            exact .inl failed
        | cons head tail =>
            cases shape
            obtain ⟨⟨value, first⟩, others⟩ := List.forall_mem_cons.mp succeeded
            have remaining := ih.mpr ⟨tail, failing, later, rfl, others, failed⟩
            exact .inr ⟨value, first, bind_eq_error_iff.mpr (.inl remaining)⟩

/-- The failure of a traversal is at the first position that fails. -/
theorem mapM_eq_error_iff_getElem? {attempt : Source → Except Failure Value} {items : List Source}
    {failure : Failure} :
    items.mapM attempt = .error failure ↔
      ∃ (position : Nat) (item : Source), items[position]? = some item ∧
        attempt item = .error failure ∧ ∀ earlier < position, ∀ other, items[earlier]? = some other →
          ∃ value, attempt other = .ok value := by
  rw [mapM_eq_error_iff]
  constructor
  · intro ⟨earlier, item, later, shape, succeeded, failed⟩
    subst shape
    refine ⟨earlier.length, item, ?_, failed, ?_⟩
    · rw [List.getElem?_append_right (Nat.le_refl _), Nat.sub_self]
      rfl
    · intro position before other found
      rw [List.getElem?_append_left before] at found
      exact succeeded other (List.mem_of_getElem? found)
  · intro ⟨position, item, found, failed, succeeded⟩
    obtain ⟨inside, rfl⟩ := List.getElem?_eq_some_iff.mp found
    refine ⟨items.take position, _, items.drop (position + 1), ?_, ?_, failed⟩
    · rw [← List.drop_eq_getElem_cons inside, List.take_append_drop]
    · intro other member
      obtain ⟨earlier, here⟩ := List.mem_iff_getElem?.mp member
      have before : earlier < position := by
        have within := (List.getElem?_eq_some_iff.mp here).1
        rw [List.length_take] at within
        omega
      rw [List.getElem?_take_of_lt before] at here
      exact succeeded earlier before other here

end ForeignTable.Attempt
