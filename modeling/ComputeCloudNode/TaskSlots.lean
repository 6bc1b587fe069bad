import ComputeCloudNode.TaskLoop

/-! Conservation of task slots. `_poll_once` takes a slot when a task is
accepted, and the last statement of `_execute_task` gives it back. An exception
that leaves `_execute_task` skips that statement, so the counter is the number
of unfinished calls plus the number of calls that escaped, in every reachable
state. -/
namespace ComputeCloudNode.TaskLoop

variable {P R : Type} {cfg : Config} {s s' : State P R} {label : Label P R} {event : Event P R}

/-- The answer makes `_execute_task` raise: the payload cannot be read, the
executor raises past `except Exception`, or the report raises. -/
def Label.escapes (cfg : Config) : Label P R → Bool
  | .begin _ readable => !cfg.useHttp && !readable
  | .executed _ outcome => (resultOf outcome).isNone
  | .reported _ answer => !reportResult cfg.useHttp answer
  | _ => false

/-- A stretch that leaves every call where it was. -/
def KeepsCalls (s s' : State P R) : Prop :=
  s'.tasksInFlight = s.tasksInFlight ∧ s'.entries = s.entries

/-- A stretch that accepts one task and takes one slot. -/
def AcceptsOne (s s' : State P R) : Prop :=
  s'.tasksInFlight = s.tasksInFlight + 1 ∧ ∃ task, s'.entries = s.entries ++ [⟨task, .queued⟩]

/-- A stretch that moves one unfinished call to the phase `next` and changes the
counter by `delta`. -/
def MovesOne (next : Phase R) (delta : Int) (s s' : State P R) : Prop :=
  s'.tasksInFlight = s.tasksInFlight + delta ∧
    ∃ index old, s.phaseAt index = some old ∧ old.unfinished ∧
      s'.entries = (s.moveEntry index next).entries

/-- Everything one stretch can do to the counter and to the calls. -/
theorem step_cases (stepped : step cfg s label = some (s', event)) :
    (label.escapes cfg = false ∧
      (KeepsCalls s s' ∨ AcceptsOne s s' ∨ (∃ next, next.unfinished ∧ MovesOne next 0 s s') ∨
        MovesOne .returned (-1) s s')) ∨
    (label.escapes cfg = true ∧ MovesOne .raised 0 s s') := by
  have keep : ∀ {middle : State P R}, KeepsCalls s middle → KeepsCalls s middle ∨ AcceptsOne s middle ∨
      (∃ next, next.unfinished ∧ MovesOne next 0 s middle) ∨ MovesOne .returned (-1) s middle := .inl
  have move : ∀ {index old} next, s.phaseAt index = some old → old.unfinished →
      MovesOne next 0 s (s.moveEntry index next) :=
    fun next at_ open_ => ⟨(add_zero _).symm, _, _, at_, open_, rfl⟩
  cases step_stretch stepped with
  | looped | refused | admitted | unanswered | broken | waited | stopped | executorSet | drained =>
    exact .inl ⟨rfl, keep ⟨rfl, rfl⟩⟩
  | accepted => exact .inl ⟨rfl, .inr (.inl ⟨rfl, _, rfl⟩)⟩
  | unreadable found free grpc => exact .inr ⟨grpc, move .raised (phaseAt_of_entry found) rfl⟩
  | begun found free read set =>
    exact .inl ⟨read, .inr (.inr (.inl ⟨_, rfl, move .executing (phaseAt_of_entry found) rfl⟩))⟩
  | noExecutor found free read unset =>
    exact .inl ⟨read, .inr (.inr (.inl ⟨_, rfl, move (.reporting noExecutorResult) (phaseAt_of_entry found) rfl⟩))⟩
  | @ended index outcome result executing built =>
    exact .inl ⟨by simp [Label.escapes, built],
      .inr (.inr (.inl ⟨_, rfl, move (.reporting result) executing rfl⟩))⟩
  | escaped executing unbuilt => exact .inr ⟨by simp [Label.escapes, unbuilt], move .raised executing rfl⟩
  | reported found returns =>
    exact .inl ⟨by simp [Label.escapes, returns],
      .inr (.inr (.inl ⟨_, rfl, move .releasing (phaseAt_of_entry found) rfl⟩))⟩
  | reportRaised found raises =>
    exact .inr ⟨by simp [Label.escapes, raises], move .raised (phaseAt_of_entry found) rfl⟩
  | @released index releasing => exact .inl ⟨rfl, .inr (.inr (.inr ⟨rfl, index, .releasing, releasing, rfl, rfl⟩))⟩

/-- Moving one call changes a sum over the calls by the weights of its two
phases. -/
theorem sum_moveEntry (weight : Phase R → Nat) (next : Phase R) {index : Nat} {old : Phase R}
    (at_ : s.phaseAt index = some old) :
    ((s.moveEntry index next).entries.map fun entry => weight entry.phase).sum + weight old =
      (s.entries.map fun entry => weight entry.phase).sum + weight next := by
  unfold State.phaseAt at at_
  unfold State.moveEntry
  generalize s.entries = entries at *
  induction entries generalizing index with
  | nil => simp at at_
  | cons entry entries ih =>
    cases index with
    | zero =>
      simp only [List.getElem?_cons_zero, Option.map_some, Option.some.injEq] at at_
      subst at_
      simp only [List.modify_zero_cons, List.map_cons, List.sum_cons]
      omega
    | succ index =>
      have rest := ih (by simpa using at_)
      simp only [List.modify_succ_cons, List.map_cons, List.sum_cons] at rest ⊢
      omega

theorem count_eq_sum (s : State P R) (p : Phase R → Bool) :
    s.count p = (s.entries.map fun entry => (p entry.phase).toNat).sum := by
  unfold State.count
  induction s.entries with
  | nil => rfl
  | cons entry entries ih =>
    rw [List.countP_cons, List.map_cons, List.sum_cons, ih]
    cases p entry.phase <;> simp [Nat.add_comm]

/-- Moving one call from `old` to `next` moves it between the counts. -/
theorem count_moveEntry (p : Phase R → Bool) (next : Phase R) {index : Nat} {old : Phase R}
    (at_ : s.phaseAt index = some old) :
    (s.moveEntry index next).count p + (p old).toNat = s.count p + (p next).toNat := by
  rw [count_eq_sum, count_eq_sum]
  exact sum_moveEntry (fun phase => (p phase).toNat) next at_

/-- Phases are counted once: an escaped call is finished. -/
theorem not_escaped_of_unfinished {phase : Phase R} (open_ : phase.unfinished) :
    phase.escaped = false := by
  cases phase with
  | raised => simp [Phase.unfinished] at open_
  | queued | executing | reporting | releasing | returned => rfl

theorem KeepsCalls.counts (keeps : KeepsCalls s s') :
    s'.tasksInFlight = s.tasksInFlight ∧ s'.unfinished = s.unfinished ∧ s'.escaped = s.escaped := by
  simp [State.unfinished, State.escaped, State.count, keeps.1, keeps.2]

theorem AcceptsOne.counts (accepts : AcceptsOne s s') :
    s'.tasksInFlight = s.tasksInFlight + 1 ∧ s'.unfinished = s.unfinished + 1 ∧
      s'.escaped = s.escaped := by
  obtain ⟨counted, task, added⟩ := accepts
  refine ⟨counted, ?_, ?_⟩
  · simp [State.unfinished, State.count, added, Phase.unfinished]
  · simp [State.escaped, State.count, added, Phase.escaped]

theorem MovesOne.counts {next : Phase R} {delta : Int} (moves : MovesOne next delta s s') :
    s'.tasksInFlight = s.tasksInFlight + delta ∧
      s'.unfinished + 1 = s.unfinished + next.unfinished.toNat ∧
      s'.escaped = s.escaped + next.escaped.toNat := by
  obtain ⟨counted, index, old, at_, wasOpen, entries⟩ := moves
  have opened := count_moveEntry Phase.unfinished next at_
  have left := count_moveEntry Phase.escaped next at_
  rw [wasOpen] at opened
  rw [not_escaped_of_unfinished wasOpen] at left
  refine ⟨counted, ?_, ?_⟩
  · simpa [State.unfinished, State.count, entries] using opened
  · simpa [State.escaped, State.count, entries] using left

/-- The counter, the open calls and the escaped calls of a state, and how many
of the labels so far made a call escape. -/
structure SlotsAccounted (cfg : Config) (s : State P R) (labels : List (Label P R)) : Prop where
  counter : s.tasksInFlight = s.unfinished + s.escaped
  escapes : s.escaped = labels.countP (Label.escapes cfg)

theorem slots_accounted_step {labels : List (Label P R)} (held : SlotsAccounted cfg s labels)
    (stepped : step cfg s label = some (s', event)) :
    SlotsAccounted cfg s' (labels ++ [label]) := by
  obtain ⟨counter, escapes⟩ := held
  have counted : (labels ++ [label]).countP (Label.escapes cfg) =
      labels.countP (Label.escapes cfg) + (label.escapes cfg).toNat := by
    cases leaves : label.escapes cfg <;> simp [leaves]
  rcases step_cases stepped with
    ⟨stays, keeps | accepts | ⟨next, open_, moves⟩ | returns⟩ | ⟨leaves, moves⟩
  · obtain ⟨inFlight, unfinished, escaped⟩ := keeps.counts
    simp only [stays, Bool.toNat_false] at counted
    constructor <;> omega
  · obtain ⟨inFlight, unfinished, escaped⟩ := accepts.counts
    simp only [stays, Bool.toNat_false] at counted
    constructor <;> omega
  · obtain ⟨inFlight, unfinished, escaped⟩ := moves.counts
    simp only [open_, not_escaped_of_unfinished open_, Bool.toNat_true, Bool.toNat_false]
      at unfinished escaped
    simp only [stays, Bool.toNat_false] at counted
    constructor <;> omega
  · obtain ⟨inFlight, unfinished, escaped⟩ := returns.counts
    simp only [Phase.unfinished, Phase.escaped, Bool.toNat_false] at unfinished escaped
    simp only [stays, Bool.toNat_false] at counted
    constructor <;> omega
  · obtain ⟨inFlight, unfinished, escaped⟩ := moves.counts
    simp only [Phase.unfinished, Phase.escaped, Bool.toNat_true, Bool.toNat_false]
      at unfinished escaped
    simp only [leaves, Bool.toNat_true] at counted
    constructor <;> omega

/-- A node before its first poll, with or without an executor. -/
def start (executorSet : Bool) : State P R := { executorSet := executorSet }

/-- Every schedule accounts for every slot. -/
theorem slots_accounted {executorSet : Bool} {labels : List (Label P R)}
    {events : List (Event P R)}
    (ran : Runs.run (step cfg) (start executorSet) labels = some (s, events)) :
    SlotsAccounted cfg s labels :=
  Runs.run_invariant (I := fun s labels _ => SlotsAccounted cfg s labels)
    ⟨rfl, rfl⟩ (fun held stepped => slots_accounted_step held stepped) ran

/-- The counter equals the number of unfinished calls exactly as long as no call
has escaped, and until then an idle node never refuses to poll. -/
theorem slots_conserved_iff {executorSet : Bool} {labels : List (Label P R)}
    {events : List (Event P R)}
    (ran : Runs.run (step cfg) (start executorSet) labels = some (s, events)) :
    (s.tasksInFlight = s.unfinished ↔ ∀ label ∈ labels, label.escapes cfg = false) ∧
      ((∀ label ∈ labels, label.escapes cfg = false) → s.unfinished = 0 →
        1 ≤ cfg.maxConcurrentTasks → s.refuses cfg = false) := by
  obtain ⟨counter, escapes⟩ := slots_accounted ran
  have none_iff : s.escaped = 0 ↔ ∀ label ∈ labels, label.escapes cfg = false := by
    rw [escapes, List.countP_eq_zero]
    simp only [Bool.not_eq_true]
  have conserved : s.tasksInFlight = s.unfinished ↔ s.escaped = 0 := by omega
  refine ⟨conserved.trans none_iff, fun kept idle room => ?_⟩
  have free := conserved.mpr (none_iff.mpr kept)
  simp only [State.refuses, decide_eq_false_iff_not]
  omega

/-- One task whose report the server answers with status 500. -/
def refusedReport : List (Label Unit Unit) :=
  [.loopTop, .admission, .pull (.task ⟨"t1", "j1", none⟩), .begin 0 true,
    .executed 0 (.returned none), .reported 0 (.answered 500), .waited, .loopTop]

/-- The same task with a report the server accepts. -/
def acceptedReport : List (Label Unit Unit) :=
  [.loopTop, .admission, .pull (.task ⟨"t1", "j1", none⟩), .begin 0 true,
    .executed 0 (.returned none), .reported 0 (.answered 200), .released 0]

/-- With `max_concurrent_tasks = 1`, one refused report leaves a node on which
nothing runs and which refuses every later poll. -/
theorem refused_report_leaks_slot :
    ∃ (s : State Unit Unit) (events : List (Event Unit Unit)),
      Runs.run (step ⟨1, true⟩) (start true) refusedReport = some (s, events) ∧
        s.unfinished = 0 ∧ s.tasksInFlight ≠ s.unfinished ∧ s.refuses ⟨1, true⟩ = true :=
  ⟨_, _, rfl, by decide, by decide, by decide⟩

theorem slots_conserved_iff_accepted :
    ∃ (s : State Unit Unit) (events : List (Event Unit Unit)),
      Runs.run (step ⟨1, true⟩) (start true) acceptedReport = some (s, events) ∧
        s.tasksInFlight = s.unfinished ∧ s.refuses ⟨1, true⟩ = false := by
  have conserved := @slots_conserved_iff Unit Unit ⟨1, true⟩ _ true acceptedReport _ rfl
  exact ⟨_, _, rfl, conserved.1.mpr (by decide), conserved.2 (by decide) (by decide) (by decide)⟩

end ComputeCloudNode.TaskLoop
