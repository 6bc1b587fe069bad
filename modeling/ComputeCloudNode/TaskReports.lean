import ComputeCloudNode.TaskLoop

/-! Where the results that a node reports come from. On a node that has an executor,
every one of them was made of the end of a call of the executor. -/
namespace ComputeCloudNode.TaskLoop
open Runs

variable {P R : Type} {cfg : Config} {s s' : State P R} {labels : List (Label P R)} {label : Label P R}
  {events : List (Event P R)} {event : Event P R} {index : Nat} {result : TaskResult R}

theorem phaseAt_moveEntry (next : Phase R) (other : Nat) :
    (s.moveEntry index next).phaseAt other = if index = other then (s.phaseAt other).map fun _ => next
      else s.phaseAt other := by
  unfold State.phaseAt State.moveEntry
  rw [List.getElem?_modify]
  cases s.entries[other]? with
  | none => split <;> rfl
  | some entry => split <;> rfl

/-- What a stretch does to the results at hand, on a node that has an executor. -/
structure ResultStep (s : State P R) (label : Label P R) (s' : State P R) (event : Event P R) : Prop where
  executorSet : s'.executorSet
  /-- A result comes up when the call of its task ends. -/
  reporting : ∀ index result, s'.phaseAt index = some (.reporting result) →
    s.phaseAt index = some (.reporting result) ∨
      ∃ outcome, label = .executed index outcome ∧ resultOf outcome = some result
  /-- A report carries the result at hand. -/
  reported : ∀ index taskId result, event = .reportAttempted index taskId result →
    s.phaseAt index = some (.reporting result)

theorem ResultStep.kept (executorSet : s'.executorSet) (same : s'.entries = s.entries)
    (silent : ∀ index taskId result, event ≠ .reportAttempted index taskId result) : ResultStep s label s' event where
  executorSet := executorSet
  reporting index result reporting := by
    rw [State.phaseAt, same] at reporting
    exact .inl reporting
  reported index taskId result shown := absurd shown (silent index taskId result)

/-- A call moves to another phase, to a result only when it has ended. -/
theorem ResultStep.moved {next : Phase R} (executorSet : s'.executorSet)
    (entries : s'.entries = (s.moveEntry index next).entries)
    (built : ∀ result, next = .reporting result → ∃ outcome, label = .executed index outcome ∧
      resultOf outcome = some result)
    (reported : ∀ index taskId result, event = .reportAttempted index taskId result →
      s.phaseAt index = some (.reporting result)) : ResultStep s label s' event where
  executorSet := executorSet
  reporting other result reporting := by
    have moved : (s.moveEntry index next).phaseAt other = some (.reporting result) := by
      rw [State.phaseAt, ← entries]
      exact reporting
    rw [phaseAt_moveEntry] at moved
    split at moved
    next same =>
      subst same
      obtain ⟨_, _, became⟩ := Option.map_eq_some_iff.mp moved
      exact .inr (built result became)
    next => exact .inl moved
  reported := reported

theorem step_results (stepped : step cfg s label = some (s', event)) (executorSet : s.executorSet) :
    ResultStep s label s' event := by
  cases step_stretch stepped with
  | looped | refused | admitted | unanswered | broken | waited | stopped | drained =>
    exact .kept executorSet rfl (by simp)
  | executorSet => exact .kept rfl rfl (by simp)
  | accepted =>
    refine ⟨executorSet, fun index result reporting => .inl ?_, by simp⟩
    simp only [pollOnce, State.phaseAt, List.getElem?_append] at reporting
    split at reporting
    next => exact reporting
    next =>
      obtain ⟨entry, found, queued⟩ := Option.map_eq_some_iff.mp reporting
      rw [List.mem_singleton.mp (List.mem_of_getElem? found)] at queued
      cases queued
  | unreadable | begun | escaped | released => exact .moved executorSet rfl (by simp) (by simp)
  | noExecutor found free read unset =>
    rw [executorSet] at unset
    cases unset
  | @ended index outcome result executing built =>
    refine .moved executorSet rfl (fun result same => ?_) (by simp)
    cases same
    exact ⟨outcome, rfl, built⟩
  | reported found | reportRaised found =>
    refine .moved executorSet rfl (by simp) fun index taskId result same => ?_
    cases same
    exact phaseAt_of_entry found

/-- The result was made of the end of the call at this index. -/
def ResultOf (labels : List (Label P R)) (index : Nat) (result : TaskResult R) : Prop :=
  ∃ outcome, .executed index outcome ∈ labels ∧ resultOf outcome = some result

theorem ResultOf.snoc (made : ResultOf labels index result) (label : Label P R) :
    ResultOf (labels ++ [label]) index result := by
  obtain ⟨outcome, member, same⟩ := made
  exact ⟨outcome, List.mem_append_left _ member, same⟩

/-- Every result, reported or about to be, was made of the end of a call. -/
structure ResultsMade (s : State P R) (labels : List (Label P R)) (events : List (Event P R)) : Prop where
  executorSet : s.executorSet
  reporting : ∀ index result, s.phaseAt index = some (.reporting result) → ResultOf labels index result
  reported : ∀ index taskId result, .reportAttempted index taskId result ∈ events → ResultOf labels index result

theorem ResultsMade.step (made : ResultsMade s labels events) (stepped : TaskLoop.step cfg s label = some (s', event)) :
    ResultsMade s' (labels ++ [label]) (events ++ [event]) where
  executorSet := (step_results stepped made.executorSet).executorSet
  reporting index result reporting := by
    obtain before | ⟨outcome, rfl, same⟩ := (step_results stepped made.executorSet).reporting index result reporting
    · exact (made.reporting index result before).snoc label
    · exact ⟨outcome, List.mem_append_right _ List.mem_cons_self, same⟩
  reported index taskId result reported := by
    rcases List.mem_append.mp reported with old | new
    · exact (made.reported index taskId result old).snoc label
    · have held := (step_results stepped made.executorSet).reported index taskId result (List.mem_singleton.mp new).symm
      exact (made.reporting index result held).snoc label

/-- In every run, what is reported for a task was made of the end of its call. -/
theorem report_made (executorSet : s.executorSet) (idle : s.entries = [])
    (ran : run (TaskLoop.step cfg) s labels = some (s', events)) {taskId : String}
    (reported : .reportAttempted index taskId result ∈ events) : ResultOf labels index result := by
  have made : ResultsMade s' labels events := by
    refine run_invariant (I := ResultsMade) ⟨executorSet, ?_, nofun⟩ (fun made stepped => made.step stepped) ran
    intro index result reporting
    rw [State.phaseAt, idle] at reporting
    cases reporting
  exact made.reported index taskId result reported

end ComputeCloudNode.TaskLoop
