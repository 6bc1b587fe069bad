import ComputeCloudNode.TaskReports
import ComputeCloudNode.TaskSlots

/-! The life of a pulled task. The events that carry its index are, in this order, its
acceptance, at most one call of the executor and at most one report. A pool thread that
picks a task up while no executor is set reports the failure instead of executing it.

`str` of an exception is taken to return here, and over gRPC the payload of a task to
have the form of a dictionary. -/
namespace ComputeCloudNode.TaskLoop
open Runs

variable {P R : Type} {cfg : Config} {s s' : State P R} {labels : List (Label P R)} {label : Label P R}
  {events : List (Event P R)} {event : Event P R} {index : Nat} {task : Task P} {executorSet : Bool}

/-! ### The events of one task -/

/-- The task that an event is about. -/
def Event.index? : Event P R → Option Nat
  | .accepted index _ => some index
  | .executeCalled index _ => some index
  | .reportAttempted index _ _ => some index
  | _ => none

/-- The events of one task. -/
def history (index : Nat) (events : List (Event P R)) : List (Event P R) :=
  events.filter fun event => event.index? = some index

theorem history_snoc (index : Nat) (events : List (Event P R)) (event : Event P R) :
    history index (events ++ [event]) =
      history index events ++ if event.index? = some index then [event] else [] := by
  by_cases same : event.index? = some index <;> simp [history, List.filter_append, same]

theorem history_snoc_other (other : event.index? ≠ some index) :
    history index (events ++ [event]) = history index events := by
  rw [history_snoc, if_neg other, List.append_nil]

theorem history_snoc_self (same : event.index? = some index) :
    history index (events ++ [event]) = history index events ++ [event] := by
  rw [history_snoc, if_pos same]

/-- A pool thread picked the task up before any executor was set. -/
def BegunWithout (executorSet : Bool) (index : Nat) (labels : List (Label P R)) : Prop :=
  executorSet = false ∧
    ∃ before readable after, labels = before ++ .begin index readable :: after ∧ .setExecutor ∉ before

theorem BegunWithout.snoc (begun : BegunWithout executorSet index labels) (label : Label P R) :
    BegunWithout executorSet index (labels ++ [label]) := by
  obtain ⟨unset, before, readable, after, split, absent⟩ := begun
  exact ⟨unset, before, readable, after ++ [label], by simp [split], absent⟩

/-- All that happens to a task, in order: it is accepted, executed and reported. If
no executor is set, only the failure is reported. -/
def FullHistory (executorSet : Bool) (labels : List (Label P R)) (index : Nat) (task : Task P)
    (full : List (Event P R)) : Prop :=
  (∃ result, full = [.accepted index task, .executeCalled index task, .reportAttempted index task.taskId result]) ∨
    BegunWithout executorSet index labels ∧
      full = [.accepted index task, .reportAttempted index task.taskId noExecutorResult]

theorem FullHistory.snoc {full : List (Event P R)} (complete : FullHistory executorSet labels index task full)
    (label : Label P R) : FullHistory executorSet (labels ++ [label]) index task full := by
  rcases complete with executed | ⟨begun, same⟩
  · exact .inl executed
  · exact .inr ⟨begun.snoc label, same⟩

/-- What has happened to a task whose call is in a phase. -/
def Lived (executorSet : Bool) (labels : List (Label P R)) (index : Nat) (task : Task P) :
    Phase R → List (Event P R) → Prop
  | .queued, past => past = [.accepted index task]
  | .executing, past => past = [.accepted index task, .executeCalled index task]
  | .reporting result, past =>
    past = [.accepted index task, .executeCalled index task] ∨
      BegunWithout executorSet index labels ∧ past = [.accepted index task] ∧ result = noExecutorResult
  | _, past => FullHistory executorSet labels index task past

variable {phase : Phase R} {past : List (Event P R)}

theorem Lived.snoc (lived : Lived executorSet labels index task phase past) (label : Label P R) :
    Lived executorSet (labels ++ [label]) index task phase past := by
  cases phase with
  | queued => exact lived
  | executing => exact lived
  | reporting result =>
    rcases lived with executed | ⟨begun, rest⟩
    · exact .inl executed
    · exact .inr ⟨begun.snoc label, rest⟩
  | releasing => exact FullHistory.snoc lived label
  | returned => exact FullHistory.snoc lived label
  | raised => exact FullHistory.snoc lived label

/-- A task that has been reported has a full history. -/
theorem Lived.reported {result : TaskResult R} (lived : Lived executorSet labels index task (.reporting result) past) :
    FullHistory executorSet labels index task (past ++ [.reportAttempted index task.taskId result]) := by
  rcases lived with rfl | ⟨begun, rfl, rfl⟩
  · exact .inl ⟨result, rfl⟩
  · exact .inr ⟨begun, rfl⟩

/-- Whatever the phase, the past is the beginning of a full history. -/
theorem Lived.prefix_full (lived : Lived executorSet labels index task phase past) :
    ∃ full, FullHistory executorSet labels index task full ∧ past <+: full := by
  have executed : FullHistory executorSet labels index task [.accepted index task, .executeCalled index task,
      .reportAttempted index task.taskId noExecutorResult] := .inl ⟨_, rfl⟩
  cases phase with
  | queued =>
    cases lived
    exact ⟨_, executed, _, rfl⟩
  | executing =>
    cases lived
    exact ⟨_, executed, _, rfl⟩
  | reporting result => exact ⟨_, lived.reported, List.prefix_append _ _⟩
  | releasing => exact ⟨past, lived, List.prefix_refl past⟩
  | returned => exact ⟨past, lived, List.prefix_refl past⟩
  | raised => exact ⟨past, lived, List.prefix_refl past⟩

theorem Lived.of_finished (lived : Lived executorSet labels index task phase past) (ended : phase.unfinished = false) :
    FullHistory executorSet labels index task past := by
  cases phase with
  | returned => exact lived
  | raised => exact lived
  | _ => cases ended

/-! ### What a stretch does to the events of a task -/

/-- The past of an index, which is empty while there is no task. -/
def PastAt (executorSet : Bool) (labels : List (Label P R)) (events : List (Event P R)) (index : Nat) :
    Option (Entry P R) → Prop
  | none => history index events = []
  | some entry => Lived executorSet labels index entry.task entry.phase (history index events)

theorem PastAt.other {entry : Option (Entry P R)} (held : PastAt executorSet labels events index entry)
    (other : event.index? ≠ some index) (label : Label P R) :
    PastAt executorSet (labels ++ [label]) (events ++ [event]) index entry := by
  cases entry with
  | none => exact (history_snoc_other other).trans held
  | some entry =>
    rw [PastAt, history_snoc_other other]
    exact Lived.snoc held label

/-- Every task has lived, and a missing executor was never set. -/
structure Tracked (executorSet : Bool) (s : State P R) (labels : List (Label P R)) (events : List (Event P R)) :
    Prop where
  unset : s.executorSet = false → executorSet = false ∧ .setExecutor ∉ labels
  pasts : ∀ index, PastAt executorSet labels events index s.entries[index]?

theorem Tracked.unset_snoc (tracked : Tracked executorSet s labels events) (same : s'.executorSet = s.executorSet)
    (other : label ≠ .setExecutor) (missing : s'.executorSet = false) :
    executorSet = false ∧ .setExecutor ∉ labels ++ [label] := by
  obtain ⟨started, absent⟩ := tracked.unset (same.symm.trans missing)
  refine ⟨started, ?_⟩
  rw [List.mem_append, List.mem_singleton]
  rintro (before | now)
  · exact absent before
  · exact other now.symm

/-- A stretch that shows nothing and leaves the calls as they are. -/
theorem Tracked.kept (tracked : Tracked executorSet s labels events) (entries : s'.entries = s.entries)
    (quiet : event.index? = none)
    (unset : s'.executorSet = false → executorSet = false ∧ .setExecutor ∉ labels ++ [label]) :
    Tracked executorSet s' (labels ++ [label]) (events ++ [event]) where
  unset := unset
  pasts index := by
    rw [entries]
    exact (tracked.pasts index).other (by simp [quiet]) label

theorem moveEntry_entry (next : Phase R) {other : Nat} (apart : other ≠ index) :
    (s.moveEntry index next).entries[other]? = s.entries[other]? := by
  exact List.getElem?_modify_ne _ s.entries apart.symm

/-- A stretch of the call of one task. -/
theorem Tracked.moved {old next : Phase R} (tracked : Tracked executorSet s labels events)
    (found : s.entries[index]? = some ⟨task, old⟩) (entries : s'.entries = (s.moveEntry index next).entries)
    (same : s'.executorSet = s.executorSet) (label_ : label ≠ .setExecutor)
    (mine : ∀ other, other ≠ index → event.index? ≠ some other)
    (lived : Lived executorSet labels index task old (history index events) →
      Lived executorSet (labels ++ [label]) index task next (history index (events ++ [event]))) :
    Tracked executorSet s' (labels ++ [label]) (events ++ [event]) where
  unset := tracked.unset_snoc same label_
  pasts other := by
    rw [entries]
    by_cases this : other = index
    · subst this
      have held := tracked.pasts other
      rw [found] at held
      rw [State.moveEntry, List.getElem?_modify_eq, found]
      exact lived held
    · rw [moveEntry_entry next this]
      exact (tracked.pasts other).other (mine other this) label

theorem entry_of_phaseAt (at_ : s.phaseAt index = some phase) : ∃ task, s.entries[index]? = some ⟨task, phase⟩ := by
  obtain ⟨⟨task, _⟩, found, rfl⟩ := Option.map_eq_some_iff.mp at_
  exact ⟨task, found⟩

/-- The executor raises subclasses of `Exception` only. -/
def Label.ordinary : Label P R → Bool
  | .executed _ outcome => (resultOf outcome).isSome
  | _ => true

/-- The payload of a task that is picked up can be converted. -/
def Label.readable : Label P R → Bool
  | .begin _ readable => readable
  | _ => true

theorem other_index {shown : Option Nat} (same : shown = none ∨ shown = some index) :
    ∀ other, other ≠ index → shown ≠ some other := by
  rintro other apart rfl
  rcases same with impossible | here
  · cases impossible
  · exact apart (Option.some.inj here)

/-- The pool accepts a task that has no past. -/
theorem Tracked.accepted (tracked : Tracked executorSet s labels events) (task : Task P) (label_ : label ≠ .setExecutor) :
    Tracked executorSet (pollOnce s (.task task)).1 (labels ++ [label])
      (events ++ [.accepted s.entries.length task]) where
  unset := tracked.unset_snoc rfl label_
  pasts index := by
    have before := tracked.pasts index
    by_cases new : index = s.entries.length
    · subst new
      rw [List.getElem?_eq_none (le_refl _)] at before
      have added : (s.entries ++ [(⟨task, .queued⟩ : Entry P R)])[s.entries.length]? = some ⟨task, .queued⟩ := by
        simp
      change PastAt _ _ _ _ (s.entries ++ [(⟨task, .queued⟩ : Entry P R)])[s.entries.length]?
      rw [added, PastAt, history_snoc_self rfl, before]
      rfl
    · have kept : (s.entries ++ [(⟨task, .queued⟩ : Entry P R)])[index]? = s.entries[index]? := by
        rcases lt_or_gt_of_ne new with inside | outside
        · exact List.getElem?_append_left inside
        · rw [List.getElem?_eq_none (le_of_lt outside), List.getElem?_eq_none]
          rw [List.length_append, List.length_singleton]
          omega
      change PastAt _ _ _ _ (s.entries ++ [(⟨task, .queued⟩ : Entry P R)])[index]?
      rw [kept]
      exact before.other (by simpa [Event.index?] using Ne.symm new) label

theorem Tracked.step (readable : cfg.useHttp = false → label.readable = true) (tracked : Tracked executorSet s labels events)
    (ordinary : label.ordinary = true) (stepped : TaskLoop.step cfg s label = some (s', event)) :
    Tracked executorSet s' (labels ++ [label]) (events ++ [event]) := by
  cases step_stretch stepped with
  | looped | refused | admitted | unanswered | broken | waited | stopped | drained =>
    exact tracked.kept rfl rfl (tracked.unset_snoc rfl (by simp))
  | executorSet =>
    refine tracked.kept rfl rfl fun impossible => ?_
    cases impossible
  | accepted => exact tracked.accepted _ (by simp)
  | unreadable found free grpc =>
    simp only [Bool.and_eq_true, Bool.not_eq_true'] at grpc
    have wrong := readable grpc.1
    simp [Label.readable, grpc.2] at wrong
  | begun found free read set =>
    apply tracked.moved found rfl rfl (by simp) (other_index (.inr rfl))
    intro lived
    rw [history_snoc_self rfl, lived]
    rfl
  | @noExecutor index task converts found free read unset =>
    apply tracked.moved found rfl rfl (by simp) (other_index (.inl rfl))
    intro lived
    obtain ⟨started, absent⟩ := tracked.unset unset
    rw [history_snoc_other (by simp [Event.index?])]
    exact .inr ⟨⟨started, labels, converts, [], rfl, absent⟩, lived, rfl⟩
  | ended at_ built =>
    obtain ⟨task, found⟩ := entry_of_phaseAt at_
    apply tracked.moved found rfl rfl (by simp) (other_index (.inl rfl))
    intro lived
    rw [history_snoc_other (by simp [Event.index?])]
    exact .inl lived
  | escaped at_ unbuilt => simp [Label.ordinary, unbuilt] at ordinary
  | reported found | reportRaised found =>
    apply tracked.moved found rfl rfl (by simp) (other_index (.inr rfl))
    intro lived
    rw [history_snoc_self rfl]
    exact lived.reported.snoc _
  | released at_ =>
    obtain ⟨task, found⟩ := entry_of_phaseAt at_
    refine tracked.moved found rfl rfl (by simp) (other_index (.inl rfl)) fun lived => ?_
    rw [history_snoc_other (by simp [Event.index?])]
    exact FullHistory.snoc lived _

theorem start_tracked (executorSet : Bool) : Tracked executorSet (start executorSet : State P R) [] [] :=
  ⟨fun unset => ⟨unset, List.not_mem_nil⟩, fun _ => rfl⟩

theorem run_tracked (readable : cfg.useHttp = false → ∀ label ∈ labels, label.readable = true)
    (ordinary : ∀ label ∈ labels, label.ordinary = true)
    (ran : run (TaskLoop.step cfg) (start executorSet) labels = some (s, events)) :
    Tracked executorSet s labels events := by
  refine run_invariant (I := fun s labels events => (cfg.useHttp = false → ∀ label ∈ labels, label.readable = true) →
    (∀ label ∈ labels, label.ordinary = true) → Tracked executorSet s labels events)
    (fun _ _ => start_tracked executorSet) ?_ ran readable ordinary
  intro before inputs outputs input after output held stepped readable ordinary
  have earlier := held (fun grpc label member => readable grpc label (List.mem_append_left _ member))
    fun label member => ordinary label (List.mem_append_left _ member)
  exact earlier.step (fun grpc => readable grpc input (by simp)) (ordinary input (by simp)) stepped

theorem mem_fullHistory {full : List (Event P R)} {other : Task P}
    (complete : FullHistory executorSet labels index task full) (member : .accepted index other ∈ full) :
    other = task := by
  rcases complete with ⟨result, rfl⟩ | ⟨_, rfl⟩ <;> simpa using member

/-- The past of a task that was accepted. -/
theorem Tracked.lived (tracked : Tracked executorSet s labels events) (accepted : .accepted index task ∈ events) :
    ∃ phase, s.phaseAt index = some phase ∧ Lived executorSet labels index task phase (history index events) := by
  have mine : .accepted index task ∈ history index events := by
    simpa [history, Event.index?] using accepted
  have past := tracked.pasts index
  cases found : s.entries[index]? with
  | none =>
    rw [found, PastAt] at past
    rw [past] at mine
    cases mine
  | some entry =>
    rw [found] at past
    obtain ⟨full, complete, before⟩ := past.prefix_full
    have same := mem_fullHistory complete (before.mem mine)
    exact ⟨entry.phase, by rw [State.phaseAt, found]; rfl, same ▸ past⟩

end ComputeCloudNode.TaskLoop
