import ComputeCloudNode.Lib.Traces
import ComputeCloudNode.TaskHistories

/-! How the calls of a node end. There are never more unfinished ones than the limit
allows, the pool threads can bring every call to its end whatever the main thread
does, and the client is closed only when all calls have finished, each with its report. -/
namespace ComputeCloudNode.TaskLoop
open Runs

variable {P R : Type} {cfg : Config} {s s' : State P R} {labels : List (Label P R)} {label : Label P R}
  {events : List (Event P R)} {event : Event P R} {index : Nat} {task : Task P} {executorSet : Bool} {phase : Phase R}

/-! ### The bound on unfinished calls -/

/-- The counter is within the limit, and below it while a task is pulled. -/
structure Bounded (cfg : Config) (s : State P R) : Prop where
  taken : s.tasksInFlight ≤ max 0 cfg.maxConcurrentTasks
  room : s.main = .pulling → s.tasksInFlight < cfg.maxConcurrentTasks

theorem Bounded.step (bounded : Bounded cfg s) (stepped : TaskLoop.step cfg s label = some (s', event)) :
    Bounded cfg s' := by
  obtain ⟨taken, room⟩ := bounded
  cases step_stretch stepped with
  | looped =>
    refine ⟨taken, fun pulling => ?_⟩
    cases stop : s.stopRequested <;> simp [stop] at pulling
  | refused | unanswered | broken | waited | drained => exact ⟨taken, by simp⟩
  | admitted at_ free =>
    simp only [State.refuses, decide_eq_false_iff_not, not_le] at free
    exact ⟨taken, fun _ => free⟩
  | accepted at_ =>
    have below := room at_
    exact ⟨by simp only [pollOnce]; omega, by simp [pollOnce]⟩
  | released => exact ⟨by simp only; omega, fun pulling => by have := room pulling; simp only; omega⟩
  | _ => exact ⟨taken, room⟩

theorem run_bounded (ran : run (step cfg) (start executorSet) labels = some (s, events)) : Bounded cfg s :=
  run_state_invariant ⟨le_max_left _ _, by simp [start]⟩ (fun bounded stepped => bounded.step stepped) ran

theorem unfinished_le (ran : run (step cfg) (start executorSet) labels = some (s, events)) :
    (s.unfinished : Int) ≤ max 0 cfg.maxConcurrentTasks := by
  have counter := (slots_accounted ran).counter
  have taken := (run_bounded ran).taken
  omega

/-! ### The end of the client -/

def Event.isReport : Event P R → Prop
  | .reportAttempted _ _ _ => True
  | _ => False

theorem unfinished_pos (at_ : s.phaseAt index = some phase) (open_ : phase.unfinished = true) : 0 < s.unfinished := by
  obtain ⟨task, found⟩ := entry_of_phaseAt at_
  exact List.countP_pos_iff.mpr ⟨_, List.mem_of_getElem? found, open_⟩

/-- The client is closed when all calls have finished, and no report comes later. -/
structure Closing (s : State P R) (events : List (Event P R)) : Prop where
  shown : .clientClosed ∈ events ↔ s.main = .closed
  finished : s.main = .closed → s.unfinished = 0
  early : Traces.Each (fun early event => event.isReport → .clientClosed ∉ early) events

/-- A stretch after which the client is open. -/
theorem Closing.stays_open (closing : Closing s events) (open_ : s.main ≠ .closed) (open' : s'.main ≠ .closed)
    (other : event ≠ .clientClosed) : Closing s' (events ++ [event]) where
  shown := by
    constructor
    · intro shown
      rcases List.mem_append.mp shown with before | now
      · exact absurd (closing.shown.mp before) open_
      · exact absurd (List.mem_singleton.mp now).symm other
    · exact fun closed => absurd closed open'
  finished closed := absurd closed open'
  early := Traces.each_snoc.mpr ⟨closing.early, fun _ shown => open_ (closing.shown.mp shown)⟩

/-- A stretch that leaves the main thread and the calls alone. -/
theorem Closing.kept (closing : Closing s events) (main : s'.main = s.main) (entries : s'.entries = s.entries) :
    Closing s' (events ++ [.quiet]) where
  shown := by
    rw [main, ← closing.shown]
    simp
  finished closed := by
    rw [State.unfinished, State.count, entries]
    exact closing.finished (main ▸ closed)
  early := Traces.each_snoc.mpr ⟨closing.early, fun impossible => impossible.elim⟩

/-- A stretch of a call, which has not finished yet. -/
theorem Closing.moved (closing : Closing s events) (at_ : s.phaseAt index = some phase)
    (open_ : phase.unfinished = true) (main : s'.main = s.main) (other : event ≠ .clientClosed) :
    Closing s' (events ++ [event]) := by
  have running : s.main ≠ .closed := by
    intro closed
    have none := closing.finished closed
    have some := unfinished_pos at_ open_
    omega
  exact closing.stays_open running (main ▸ running) other

theorem Closing.step (closing : Closing s events) (stepped : TaskLoop.step cfg s label = some (s', event)) :
    Closing s' (events ++ [event]) := by
  cases step_stretch stepped with
  | looped at_ =>
    refine closing.stays_open (by simp [at_]) ?_ (by simp)
    cases s.stopRequested <;> simp
  | refused at_ | admitted at_ | unanswered at_ | broken at_ | accepted at_ | waited at_ =>
    exact closing.stays_open (by simp [at_]) (by simp [pollOnce]) (by simp)
  | stopped | executorSet => exact closing.kept rfl rfl
  | drained at_ finished =>
    refine ⟨by simp, fun _ => finished, Traces.each_snoc.mpr ⟨closing.early, fun impossible => impossible.elim⟩⟩
  | unreadable found | begun found | noExecutor found =>
    exact closing.moved (phaseAt_of_entry found) rfl rfl (by simp)
  | ended at_ | escaped at_ | released at_ => exact closing.moved at_ rfl rfl (by simp)
  | reported found | reportRaised found => exact closing.moved (phaseAt_of_entry found) rfl rfl (by simp)

theorem run_closing (ran : run (step cfg) (start executorSet) labels = some (s, events)) : Closing s events :=
  run_invariant (I := fun s _ events => Closing s events)
    ⟨by simp [start], fun _ => rfl, Traces.each_nil⟩ (fun closing stepped => closing.step stepped) ran

/-! ### The pool finishes what it was given -/

/-- The stretches that a call has before it. -/
def Phase.ahead : Phase R → Nat
  | .queued => 4
  | .executing => 3
  | .reporting _ => 2
  | .releasing => 1
  | _ => 0

/-- The stretches that all calls have before them. -/
def State.ahead (s : State P R) : Nat := (s.entries.map fun entry => entry.phase.ahead).sum

theorem ahead_moveEntry (next : Phase R) (at_ : s.phaseAt index = some phase) :
    (s.moveEntry index next).ahead + phase.ahead = s.ahead + next.ahead :=
  sum_moveEntry Phase.ahead next at_

/-- A stretch of a pool thread. -/
def Label.isPool : Label P R → Bool
  | .begin _ _ => true
  | .executed _ _ => true
  | .reported _ _ => true
  | .released _ => true
  | _ => false

/-- A stretch of the pool that brings the calls closer to their end. -/
def Advances (cfg : Config) (s : State P R) : Prop :=
  ∃ label s' event, step cfg s label = some (s', event) ∧ label.isPool = true ∧ label.ordinary = true ∧
    s'.ahead < s.ahead

/-- A call that a pool thread has picked up can go on. -/
theorem busy_advances (found : s.entries[index]? = some ⟨task, phase⟩) (busy : phase.busy = true) : Advances cfg s := by
  have at_ := phaseAt_of_entry found
  cases phase with
  | queued => cases busy
  | executing =>
    have less := ahead_moveEntry (.reporting { success := true, result := none }) at_
    refine ⟨.executed index (.returned none), s.moveEntry index (.reporting { success := true, result := none }),
      .quiet, ?_, rfl, rfl, ?_⟩
    · simp only [step, at_, finishExecute, resultOf]
    · simp only [Phase.ahead] at less
      omega
  | reporting result =>
    have less := ahead_moveEntry .releasing at_
    refine ⟨.reported index (.answered 200), s.moveEntry index .releasing, .reportAttempted index task.taskId result,
      ?_, rfl, rfl, ?_⟩
    · have returns : reportResult cfg.useHttp (.answered 200) = true := by simp [reportResult, raiseForStatus]
      simp only [step, found, returns, if_true]
    · simp only [Phase.ahead] at less
      omega
  | releasing =>
    have less := ahead_moveEntry .returned at_
    refine ⟨.released index, { s.moveEntry index .returned with tasksInFlight := s.tasksInFlight - 1 }, .quiet,
      ?_, rfl, rfl, ?_⟩
    · simp only [step, at_]
    · simp only [Phase.ahead] at less
      change (s.moveEntry index .returned).ahead < s.ahead
      omega
  | returned => cases busy
  | raised => cases busy

/-- While no thread is busy one can pick up a task. -/
theorem queued_advances (found : s.entries[index]? = some ⟨task, .queued⟩)
    (free : (s.count Phase.busy : Int) < cfg.maxConcurrentTasks) : Advances cfg s := by
  have at_ := phaseAt_of_entry found
  have begins : step cfg s (.begin index true) = some (beginTask cfg s index task true) := by
    simp only [step, found, if_pos free]
  cases set : s.executorSet with
  | true =>
    have less := ahead_moveEntry .executing at_
    refine ⟨.begin index true, s.moveEntry index .executing, .executeCalled index task, ?_, rfl, rfl, ?_⟩
    · simpa [beginTask, set] using begins
    · simp only [Phase.ahead] at less
      omega
  | false =>
    have less := ahead_moveEntry (.reporting noExecutorResult) at_
    refine ⟨.begin index true, s.moveEntry index (.reporting noExecutorResult), .quiet, ?_, rfl, rfl, ?_⟩
    · simpa [beginTask, set] using begins
    · simp only [Phase.ahead] at less
      omega

theorem unfinished_advances (bound : (s.unfinished : Int) ≤ max 0 cfg.maxConcurrentTasks) (some_ : s.unfinished ≠ 0) :
    Advances cfg s := by
  obtain ⟨entry, member, open_⟩ := List.countP_pos_iff.mp (Nat.pos_of_ne_zero some_)
  by_cases busy : s.count Phase.busy = 0
  · obtain ⟨index, found⟩ := List.mem_iff_getElem?.mp member
    have idle : ¬ entry.phase.busy = true := by
      intro working
      have positive : 0 < s.count Phase.busy := List.countP_pos_iff.mpr ⟨entry, member, working⟩
      omega
    have queued : entry.phase = .queued := by
      cases phase : entry.phase with
      | queued => rfl
      | _ =>
        rw [phase] at idle open_
        exact absurd open_ idle
    have free : (s.count Phase.busy : Int) < cfg.maxConcurrentTasks := by omega
    exact queued_advances (by rw [found, ← queued]) free
  · obtain ⟨entry, member, working⟩ := List.countP_pos_iff.mp (Nat.pos_of_ne_zero busy)
    obtain ⟨index, found⟩ := List.mem_iff_getElem?.mp member
    exact busy_advances found working

/-- The pool can bring all calls to their end. -/
theorem pool_finishes (ran : run (step cfg) (start executorSet) labels = some (s, events)) :
    ∃ more final later, run (step cfg) s more = some (final, later) ∧ final.unfinished = 0 ∧
      ∀ label ∈ more, label.isPool = true ∧ label.ordinary = true := by
  induction ahead : s.ahead using Nat.strongRecOn generalizing s labels events with
  | _ ahead ih =>
    subst ahead
    by_cases done : s.unfinished = 0
    · exact ⟨[], s, [], rfl, done, by simp⟩
    · obtain ⟨label, next, event, stepped, pool, ordinary, less⟩ := unfinished_advances (unfinished_le ran) done
      have longer := run_snoc_iff.mpr ⟨s, events, event, ran, stepped, rfl⟩
      obtain ⟨more, final, later, rest, finished, pools⟩ := ih next.ahead less longer rfl
      refine ⟨label :: more, final, event :: later, run_cons_iff.mpr ⟨next, event, later, stepped, rest, rfl⟩,
        finished, ?_⟩
      exact List.forall_mem_cons.mpr ⟨⟨pool, ordinary⟩, pools⟩

/-- Every task that is accepted is executed once, unless it is picked up while no
executor is set, and reported once, in this order; no more than `max_concurrent_tasks`
are unfinished at any moment; and the client is closed after all reports. -/
theorem accepted_tasks_run_once (readable : cfg.useHttp = false → ∀ label ∈ labels, label.readable = true)
    (ordinary : ∀ label ∈ labels, label.ordinary = true)
    (ran : run (step cfg) (start executorSet) labels = some (s, events)) :
    (∀ index task, .accepted index task ∈ events →
      (∃ full, FullHistory executorSet labels index task full ∧ history index events <+: full) ∧
      (s.main = .closed ∨ (∃ phase, s.phaseAt index = some phase ∧ phase.unfinished = false) →
        FullHistory executorSet labels index task (history index events))) ∧
    (s.unfinished : Int) ≤ max 0 cfg.maxConcurrentTasks ∧
    (Traces.Each (fun early event => event.isReport → .clientClosed ∉ early) events ∧
      (.clientClosed ∈ events → s.unfinished = 0)) ∧
    ∃ more final later, run (step cfg) s more = some (final, later) ∧ final.unfinished = 0 ∧
      ∀ label ∈ more, label.isPool = true ∧ label.ordinary = true := by
  have tracked := run_tracked readable ordinary ran
  have closing := run_closing ran
  refine ⟨fun index task accepted => ?_, unfinished_le ran,
    ⟨closing.early, fun shown => closing.finished (closing.shown.mp shown)⟩, pool_finishes ran⟩
  obtain ⟨phase, at_, lived⟩ := tracked.lived accepted
  refine ⟨lived.prefix_full, fun finished => ?_⟩
  have ended : phase.unfinished = false := by
    rcases finished with closed | ⟨same, at', ended⟩
    · by_contra open_
      have none := closing.finished closed
      have some_ := unfinished_pos at_ (Bool.of_not_eq_false open_)
      omega
    · cases at_.symm.trans at'
      exact ended
  exact lived.of_finished ended

theorem accepted_task_runs_once : ∃ (s : State Unit Unit) (events : List (Event Unit Unit)),
    run (step ⟨1, true⟩) (start true) acceptedReport = some (s, events) ∧
      FullHistory true acceptedReport 0 ⟨"t1", "j1", none⟩ (history 0 events) := by
  have once := (@accepted_tasks_run_once Unit Unit ⟨1, true⟩ _ acceptedReport _ true (by decide) (by decide) rfl).1 0
    ⟨"t1", "j1", none⟩ (by decide)
  exact ⟨_, _, rfl, once.2 (.inr ⟨.returned, rfl, rfl⟩)⟩

/-- A task on a node without an executor. -/
def unexecutedTask : List (Label Unit Unit) :=
  [.loopTop, .admission, .pull (.task ⟨"t1", "j1", none⟩), .begin 0 true, .reported 0 (.answered 200), .released 0]

/-- The task is accepted and reported but never executed. -/
theorem task_without_executor : ∃ (s : State Unit Unit) (events : List (Event Unit Unit)),
    run (step ⟨1, true⟩) (start false) unexecutedTask = some (s, events) ∧
      .accepted 0 ⟨"t1", "j1", none⟩ ∈ events ∧ s.phaseAt 0 = some .returned ∧
      ∀ index task, .executeCalled index task ∉ events := by
  refine ⟨_, _, rfl, by decide, rfl, ?_⟩
  intro index task executed
  simp at executed

end ComputeCloudNode.TaskLoop
