import ForeignTable.Proofs.LocalFailure
import ForeignTable.Proofs.Scan.Sending

/-! Scans after a failed fetch. A scan whose fetch failed has nothing left, and whatever is
asked of it later it has nothing left, with one exception: when the store failed and the
scan is started over at once, the next request for a tuple finds no session and fails again.
Only then does a scan show that it is fetching. -/

set_option autoImplicit false

namespace ForeignTable.Scan

open Remote (Store Session Execution Row)

variable {relation : Relation} {plan : ScanPlan} {zone : Zone} {store : Store}
  {stage : Stage} {run after : Run} {failure : Error}

structure FetchFails (run : Run) (failure : Error) (after : Run) : Prop where
  answer : run.next = (.error failure, after)
  asked : after.store.executed ≠ run.store.executed

/-- What made a fetch fail: the store, or a row that does not materialize. -/
inductive FailedBy (relation : Relation) (plan : ScanPlan) (zone : Zone) (store : Store) :
    Error → Prop where
  | store {message : String} : store.answer 0 = .failure message →
      FailedBy relation plan zone store (.remoteExecution .select message)
  | row {rows : List Row} {failure : Error} : store.answer 0 = .rows rows →
      rows.mapM (relation.materialize zone plan.retrieved) = .error failure →
      FailedBy relation plan zone store failure

def Request.answerOfNothing : Request → Except Error Answer
  | .next => .ok (.tuple none)
  | .rescan => .ok .restarted

/-- The answer of a scan whose session is gone before its fetch. -/
def Request.answerWithoutSession : Request → Except Error Answer
  | .next => .error (.internal .releasedSession)
  | .rescan => .ok .restarted

/-- Nothing is left of the scan and no request fails, now and after each of the requests. -/
structure StaysExhausted (run : Run) (later : List Request) : Prop where
  answers : run.answers later = later.map Request.answerOfNothing
  exhausted : ∀ part, part <+: later → (run.requests part).scan.exhausted = true
  empty : ∀ part, part <+: later → (run.requests part).scan.batch.tuples = []

/-- The scan is started over right after its first request for a tuple and asked again, with
no end in between or later. -/
def Strands (calls : List Call) : Prop :=
  ∃ restarts later, calls = restarts ++ .next :: .rescan :: later ∧
    (∀ call ∈ restarts, call = .rescan) ∧ .next ∈ later ∧ .finish ∉ later

/-!
## Scans that no request changes
-/

theorem answers_of_fixed {answer : Request → Except Error Answer}
    (fixed : ∀ request, run.request request = (answer request, run))
    (requests : List Request) :
    run.answers requests = requests.map answer ∧ run.requests requests = run := by
  induction requests with
  | nil => exact ⟨rfl, rfl⟩
  | cons request rest ih =>
      simp only [Run.answers, Run.requests, fixed, List.map_cons]
      exact ⟨congrArg _ ih.1, ih.2⟩

theorem used_up_fixed {session : Session} {statement : Remote.Statement} (request : Request) :
    Run.request
        ⟨{ relation, plan, zone, session, statement := some statement
           batch := .ofTuples [], exhausted := true, phase := .ended }, store⟩ request =
      (request.answerOfNothing,
        ⟨{ relation, plan, zone, session, statement := some statement
           batch := .ofTuples [], exhausted := true, phase := .ended }, store⟩) := by
  cases request <;> rfl

private theorem stranded_fixed {statement : Remote.Statement} (request : Request) :
    Run.request
        ⟨{ relation, plan, zone, session := .returned, statement := some statement
           batch := .ofTuples [], phase := .fetching }, store⟩ request =
      (request.answerWithoutSession,
        ⟨{ relation, plan, zone, session := .returned, statement := some statement
           batch := .ofTuples [], phase := .fetching }, store⟩) := by
  cases request <;> rfl

private theorem used_up_stays {session : Session} {statement : Remote.Statement}
    (later : List Request) :
    StaysExhausted
      ⟨{ relation, plan, zone, session, statement := some statement
         batch := .ofTuples [], exhausted := true, phase := .ended }, store⟩ later := by
  refine ⟨(answers_of_fixed used_up_fixed later).1, fun part _ => ?_, fun part _ => ?_⟩
  · rw [(answers_of_fixed used_up_fixed part).2]
  · rw [(answers_of_fixed used_up_fixed part).2]
    rfl

/-!
## After the failure
-/

/-- A failed fetch is the first request for a tuple, and leaves one of two scans. -/
theorem FetchFails.leaves (stands : Stands relation plan zone store stage run)
    (fails : FetchFails run failure after) :
    (∃ message later, store.answer 0 = .failure message ∧
      failure = .remoteExecution .select message ∧
      after = ⟨{ relation, plan, zone, session := .returned, batch := .ofTuples []
                 exhausted := true, phase := .ended }, later⟩) ∨
    ∃ rows statement later, store.answer 0 = .rows rows ∧
      rows.mapM (relation.materialize zone plan.retrieved) = .error failure ∧
      after = ⟨{ relation, plan, zone, statement := some statement, batch := .ofTuples []
                 exhausted := true, phase := .ended }, later⟩ := by
  have called : run.call .next = after := congrArg Prod.snd fails.answer
  -- at every other stage the call would have sent nothing
  have waits : stage = .waiting := by
    by_contra moved
    have executed := (stands.call .next).2
    rw [called, Stage.sends_of_ne_waiting plan moved, List.append_nil] at executed
    exact fails.asked executed
  subst waits
  cases stands with
  | waiting =>
      have fetched : Fetched relation plan zone store _ := next_fetched
      rw [fails.answer] at fetched
      generalize outcome : ((.error failure, after) : Except Error (Option Tuple) × Run) = result
        at fetched
      cases fetched with
      | failed answer _ =>
          cases outcome
          exact .inl ⟨_, _, answer, rfl, rfl⟩
      | refused answer materialized _ =>
          cases outcome
          exact .inr ⟨_, _, _, answer, materialized, rfl⟩
      | loaded _ _ _ => cases outcome

theorem StaysExhausted.nil (exhausted : run.scan.exhausted = true)
    (empty : run.scan.batch.tuples = []) : StaysExhausted run [] := by
  refine ⟨rfl, fun part inside => ?_, fun part inside => ?_⟩
  · cases List.prefix_nil.mp inside
    exact exhausted
  · cases List.prefix_nil.mp inside
    exact empty

theorem StaysExhausted.cons {request : Request} {later : List Request}
    (exhausted : run.scan.exhausted = true) (empty : run.scan.batch.tuples = [])
    (answered : run.request request = (request.answerOfNothing, after))
    (stays : StaysExhausted after later) : StaysExhausted run (request :: later) := by
  refine ⟨?_, fun part inside => ?_, fun part inside => ?_⟩
  · simp only [Run.answers, answered, stays.answers, List.map_cons]
  · obtain rfl | ⟨rest, rfl, remaining⟩ := List.prefix_cons_iff.mp inside
    · exact exhausted
    · simp only [Run.requests, answered]
      exact stays.exhausted rest remaining
  · obtain rfl | ⟨rest, rfl, remaining⟩ := List.prefix_cons_iff.mp inside
    · exact empty
    · simp only [Run.requests, answered]
      exact stays.empty rest remaining

/-- After a failure of the store nothing is left for good, unless the scan is started over
before anything else. -/
theorem abandoned_stays_iff (later : List Request) :
    StaysExhausted
        ⟨{ relation, plan, zone, session := .returned, batch := .ofTuples []
           exhausted := true, phase := .ended }, store⟩ later ↔
      later.head? ≠ some .rescan := by
  cases later with
  | nil => exact iff_of_true (.nil rfl rfl) nofun
  | cons request rest =>
      cases request with
      | next => exact iff_of_true (.cons rfl rfl rfl (used_up_stays rest)) nofun
      | rescan =>
          refine iff_of_false (fun stays => ?_) (fun first => first rfl)
          have early := stays.exhausted [.rescan] ⟨rest, rfl⟩
          cases early

private theorem reopened_answers (later : List Request) :
    Run.answers
        ⟨{ relation, plan, zone, session := .returned, batch := .ofTuples []
           phase := .ended }, store⟩ later =
      later.map Request.answerWithoutSession := by
  induction later with
  | nil => rfl
  | cons request rest ih =>
      cases request with
      | next => exact congrArg _ (answers_of_fixed stranded_fixed rest).1
      | rescan => exact congrArg _ ih

theorem FetchFails.stays_iff (stands : Stands relation plan zone store stage run)
    (fails : FetchFails run failure after) (later : List Request) :
    StaysExhausted after later ↔
      (failure.kind = .remoteExecution → later.head? ≠ some .rescan) := by
  obtain ⟨message, _, _, rfl, rfl⟩ | ⟨rows, _, _, _, materialized, rfl⟩ := fails.leaves stands
  · rw [abandoned_stays_iff]
    exact ⟨fun first _ => first, fun first => first rfl⟩
  · have own : failure.kind ≠ .remoteExecution :=
      local_mapM (fun row _ => relation.local_materialize zone plan.retrieved row) _ materialized
    exact iff_of_true (used_up_stays later) fun remote => absurd remote own

/-!
## Phases between two calls
-/

namespace Stage

variable {rows : Bool}

theorem afterAll_stranded_iff (calls : List Call) :
    stranded.afterAll rows calls = .stranded ↔ .finish ∉ calls := by
  constructor
  · intro stays ends
    rw [afterAll_of_finish rows ends] at stays
    cases stays
  · intro unfinished
    induction calls with
    | nil => rfl
    | cons call rest ih =>
        obtain ⟨other, remaining⟩ := List.ne_and_not_mem_of_not_mem_cons unfinished
        cases call with
        | next => exact ih remaining
        | rescan => exact ih remaining
        | finish => exact absurd rfl other

theorem afterAll_reopened_iff (calls : List Call) :
    reopened.afterAll rows calls = .stranded ↔ .next ∈ calls ∧ .finish ∉ calls := by
  induction calls with
  | nil => exact iff_of_false nofun fun present => List.not_mem_nil present.1
  | cons call rest ih =>
      cases call with
      | next =>
          refine (afterAll_stranded_iff rest).trans ?_
          simp
      | rescan =>
          refine ih.trans ?_
          simp
      | finish =>
          refine iff_of_false (fun stays => ?_) fun present => present.2 List.mem_cons_self
          rw [afterAll_of_finish rows List.mem_cons_self] at stays
          cases stays

private theorem afterAll_ne_stranded
    (settled : stage = .answered ∨ stage = .spent ∨ stage = .closed)
    (calls : List Call) : stage.afterAll rows calls ≠ .stranded := by
  induction calls generalizing stage with
  | nil => rcases settled with rfl | rfl | rfl <;> exact nofun
  | cons call rest ih =>
      refine ih ?_
      rcases settled with rfl | rfl | rfl <;> cases call <;> simp [after]

theorem afterAll_abandoned_iff (calls : List Call) :
    abandoned.afterAll rows calls = .stranded ↔
      ∃ later, calls = .rescan :: later ∧ .next ∈ later ∧ .finish ∉ later := by
  cases calls with
  | nil => exact iff_of_false nofun nofun
  | cons call rest =>
      cases call with
      | next => exact iff_of_false (afterAll_ne_stranded (.inr (.inl rfl)) rest) nofun
      | rescan =>
          refine (afterAll_reopened_iff rest).trans ⟨fun asks => ⟨rest, rfl, asks⟩, ?_⟩
          rintro ⟨_, ⟨⟩, asks⟩
          exact asks
      | finish => exact iff_of_false (afterAll_ne_stranded (.inr (.inr rfl)) rest) nofun

theorem strands_rescan_iff (calls : List Call) :
    Strands (.rescan :: calls) ↔ Strands calls := by
  constructor
  · rintro ⟨restarts, later, shape, only, asks⟩
    cases restarts with
    | nil => cases shape
    | cons first others =>
        obtain ⟨_, rfl⟩ := List.cons.inj shape
        exact ⟨others, later, rfl, fun call member => only call (List.mem_cons_of_mem _ member),
          asks⟩
  · rintro ⟨restarts, later, rfl, only, asks⟩
    exact ⟨.rescan :: restarts, later, rfl, List.forall_mem_cons.mpr ⟨rfl, only⟩, asks⟩

theorem strands_next_iff (calls : List Call) :
    Strands (.next :: calls) ↔
      ∃ later, calls = .rescan :: later ∧ .next ∈ later ∧ .finish ∉ later := by
  constructor
  · rintro ⟨restarts, later, shape, only, asks⟩
    cases restarts with
    | nil =>
        cases shape
        exact ⟨later, rfl, asks⟩
    | cons first others =>
        obtain ⟨rfl, _⟩ := List.cons.inj shape
        cases only _ List.mem_cons_self
  · rintro ⟨later, rfl, asks⟩
    exact ⟨[], later, rfl, nofun, asks⟩

private theorem not_strands_finish (calls : List Call) : ¬Strands (.finish :: calls) := by
  rintro ⟨restarts, later, shape, only, _⟩
  cases restarts with
  | nil => cases shape
  | cons first others =>
      obtain ⟨rfl, _⟩ := List.cons.inj shape
      cases only _ List.mem_cons_self

theorem afterAll_waiting_iff (calls : List Call) :
    waiting.afterAll rows calls = .stranded ↔ rows = false ∧ Strands calls := by
  induction calls with
  | nil =>
      refine iff_of_false nofun ?_
      rintro ⟨_, restarts, later, shape, _⟩
      cases restarts <;> cases shape
  | cons call rest ih =>
      cases call with
      | next =>
          rw [strands_next_iff]
          cases rows with
          | true => exact iff_of_false (afterAll_ne_stranded (.inl rfl) rest) nofun
          | false => exact (afterAll_abandoned_iff rest).trans (and_iff_right rfl).symm
      | rescan =>
          rw [strands_rescan_iff]
          exact ih
      | finish =>
          refine iff_of_false (afterAll_ne_stranded (.inr (.inr rfl)) rest) fun strands => ?_
          exact not_strands_finish rest strands.2

end Stage

theorem Stands.phase (stands : Stands relation plan zone store stage run) :
    run.scan.phase ≠ .cursorOpen ∧ (run.scan.phase = .fetching ↔ stage = .stranded) := by
  cases stands with
  | waiting => exact ⟨nofun, iff_of_false nofun nofun⟩
  | answered standing =>
      rcases standing with rfl | rfl <;> exact ⟨nofun, iff_of_false nofun nofun⟩
  | abandoned | spent | reopened => exact ⟨nofun, iff_of_false nofun nofun⟩
  | stranded => exact ⟨nofun, iff_of_true rfl rfl⟩
  | closed closed _ =>
      rw [closed]
      exact ⟨nofun, iff_of_false nofun nofun⟩

theorem isRows_eq_false_iff (response : Remote.Response) :
    response.isRows = false ↔ ∃ message, response = .failure message := by
  cases response with
  | rows rows => exact iff_of_false nofun nofun
  | failure message => exact iff_of_true rfl ⟨message, rfl⟩

/-- After a failed fetch nothing is left and no request fails, unless the store failed and
the scan is started over first: then every request for a tuple finds the session gone. Between
two calls a scan is never opening its cursor, and fetching only in that one case. -/
theorem exhausted_after_failure_iff {server : ServerOptions}
    (begun : start server relation plan zone store = .ok run) :
    (∀ earlier failure after, FetchFails (run.calls earlier) failure after →
      FailedBy relation plan zone store failure ∧
      (∀ later, StaysExhausted after later ↔
        (failure.kind = .remoteExecution → later.head? ≠ some .rescan)) ∧
      (failure.kind = .remoteExecution → ∀ later,
        after.answers (.rescan :: later) =
          (Request.rescan :: later).map Request.answerWithoutSession)) ∧
    ∀ calls, (run.calls calls).scan.phase ≠ .cursorOpen ∧
      ((run.calls calls).scan.phase = .fetching ↔
        (∃ message, store.answer 0 = .failure message) ∧ Strands calls) := by
  obtain ⟨stands, _, script⟩ := start_stands begun
  refine ⟨fun earlier failure after fails => ?_, fun calls => ?_⟩
  · have standing := stands.calls earlier
    refine ⟨?_, fails.stays_iff standing, fun remote later => ?_⟩
    · obtain ⟨_, _, answer, rfl, _⟩ | ⟨_, _, _, answer, materialized, _⟩ := fails.leaves standing
      · exact .store ((script 0).symm.trans answer)
      · exact .row ((script 0).symm.trans answer) materialized
    · obtain ⟨_, _, _, _, rfl⟩ | ⟨_, _, _, _, materialized, _⟩ := fails.leaves standing
      · exact congrArg _ (reopened_answers later)
      · exact absurd remote (local_mapM
          (fun row _ => relation.local_materialize zone plan.retrieved row) _ materialized)
  · obtain ⟨settled, fetching⟩ := (stands.calls calls).phase
    rw [Stage.afterAll_waiting_iff, isRows_eq_false_iff, script] at fetching
    exact ⟨settled, fetching⟩

/-- A store that fails once and would answer the next query. -/
def failingOnce : Store := { responses := [.failure "timeout", .rows shopRows] }

theorem exhausted_after_failure_iff_shops :
    ∃ run after, start {} shops (ScanPlan.ofRelation shops .everything) Zone.utc
        failingOnce = .ok run ∧
      FetchFails (run.calls [.rescan]) (.remoteExecution .select "timeout") after ∧
      StaysExhausted after [.next, .rescan, .next] ∧
      ¬StaysExhausted after [.rescan, .next] ∧
      (run.calls [.next, .rescan, .next]).scan.phase = .fetching := by
  obtain ⟨run, after, begun, fails⟩ : ∃ run after,
      start {} shops (ScanPlan.ofRelation shops .everything) Zone.utc failingOnce = .ok run ∧
        FetchFails (run.calls [.rescan]) (.remoteExecution .select "timeout") after :=
    ⟨_, _, rfl, rfl, List.cons_ne_nil _ _⟩
  obtain ⟨failed, phases⟩ := exhausted_after_failure_iff begun
  obtain ⟨_, stays, _⟩ := failed [.rescan] _ _ fails
  refine ⟨run, after, begun, fails, (stays _).mpr nofun, fun still => ?_, (phases _).2.mpr ?_⟩
  · exact (stays _).mp still rfl rfl
  · exact ⟨⟨"timeout", rfl⟩, [], [.next], rfl, nofun, by decide, by decide⟩

/-- Started over after a failure of the store, a scan fails once more and is left fetching. -/
theorem restart_after_failure_fails :
    ∃ run after, start {} shops (ScanPlan.ofRelation shops .everything) Zone.utc
        failingOnce = .ok run ∧
      FetchFails run (.remoteExecution .select "timeout") after ∧
      after.answers [.rescan, .next] =
        [.ok .restarted, .error (.internal .releasedSession)] ∧
      (after.requests [.rescan]).scan.exhausted = false ∧
      (after.requests [.rescan, .next]).scan.phase = .fetching :=
  ⟨_, _, rfl, ⟨rfl, List.cons_ne_nil _ _⟩, rfl, rfl, rfl⟩

end ForeignTable.Scan
