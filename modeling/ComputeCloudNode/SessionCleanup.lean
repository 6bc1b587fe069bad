import ComputeCloudNode.Lib.Traces
import ComputeCloudNode.SessionMoves

/-! Which exits of a session thread stop the containers it started. Every rung of
the ladder and every exit of the thread but one calls `stop_session` on the
handle it holds; the exit taken when `is_session_alive` answers `False` does
not. -/
namespace ComputeCloudNode.WorkbenchSession
open Traces

/-- `start_session` returned this handle and `stop_session` has not been called
on it since. -/
def Unstopped (handle : SessionHandle) (effects : List Effect) : Prop :=
  Since (· = .started handle) (· ≠ .stopped handle) effects

/-- `is_session_alive` answers `False` or raises. -/
def Answer.reportsDead : Answer → Bool
  | .alive answer => answer != some true
  | _ => false

/-- The handle a program point of the ladder still has to stop or hand back. -/
def HealPc.owed : HealPc → Option SessionHandle
  | .probe handle _ => some handle
  | .capture _ handle => some handle
  | .stop _ handle => some handle
  | .recheck _ handle => some handle
  | .healed handle => some handle
  | .pull | .start _ | .report _ | .failed => none

/-- The handle a program point of the thread still has to stop. -/
def Pc.owed : Pc → Option SessionHandle
  | .create | .start | .report .. | .unregister | .returned => none
  | .heal ladder => ladder.pc.owed
  | .register handle | .ready handle | .stopUnready handle | .launch handle | .loopTop handle
  | .heartbeat handle | .alive handle | .scanDue handle | .scan handle | .alert handle _
  | .stopCritical handle _ | .pause handle | .stopFinished handle => some handle

/-- Program points after the report of an exit that unregisters the session. -/
def Pc.leaving : Pc → Bool
  | .report _ _ registered => registered
  | .unregister | .returned => true
  | _ => false

/-- An effect that neither starts nor stops a container. -/
def Effect.idle : Effect → Bool
  | .started _ => false
  | .stopped _ => false
  | _ => true

/-- How an effect may change the handle that is still to be stopped: a container
is started only when none is held, and only the held one is stopped. -/
inductive Balanced : Option SessionHandle → Effect → Option SessionHandle → Prop
  | started (handle : SessionHandle) : Balanced none (.started handle) (some handle)
  | stopped (handle : SessionHandle) : Balanced (some handle) (.stopped handle) none
  | kept {owed : Option SessionHandle} {effect : Effect} (idle : effect.idle) : Balanced owed effect owed

/-- After a capture the container is stopped, or its logs are read once more. -/
theorem afterCapture_cases (executor : Executor) (handle : SessionHandle) (rung : Rung) :
    ∃ next, afterCapture executor handle rung = .stop next handle ∨
      afterCapture executor handle rung = .capture next handle := by
  cases rung with
  | repull =>
    simp only [afterCapture]
    split
    · exact ⟨.repull, .inl rfl⟩
    · exact ⟨.giveUp, .inr rfl⟩
  | restart => exact ⟨.restart, .inl rfl⟩
  | giveUp => exact ⟨.giveUp, .inl rfl⟩

theorem afterCapture_owed (executor : Executor) (handle : SessionHandle) (rung : Rung) :
    (afterCapture executor handle rung).owed = some handle := by
  obtain ⟨next, same | same⟩ := afterCapture_cases executor handle rung <;> rw [same] <;> rfl

/-- Capturing logs at most reads them. -/
theorem captureLogs_effect {executor : Executor} {handle : SessionHandle} {lastLogs tail : String}
    {answer : Answer} {effect : Effect}
    (captured : captureLogs executor handle lastLogs answer = some (tail, effect)) :
    effect = .quiet ∨ effect = .logsRead handle := by
  cases answer with
  | returned | logs | raised =>
    simp only [captureLogs, Option.ite_none_left_eq_some, Option.ite_none_right_eq_some,
      Option.some.injEq, Prod.mk.injEq] at captured
    obtain ⟨_, _, rfl⟩ := captured
    simp
  | _ => cases captured

/-- One step of the ladder starts, stops or keeps exactly what it holds. -/
theorem HealMove.balanced {executor : Executor} {sessionId : String} {heal heal' : Heal} {answer : Answer}
    {effect : Effect} (moved : HealMove executor sessionId heal answer heal' effect) :
    Balanced heal.pc.owed effect heal'.pc.owed := by
  cases moved with
  | captured rung read =>
    rw [afterCapture_owed]
    rcases captureLogs_effect read with rfl | rfl <;> exact .kept rfl
  | started rung handle => exact .started handle
  | stoppedLast handle | stoppedToRestart handle | stoppedToPull handle | stopRaised handle => exact .stopped handle
  | _ => exact .kept rfl

theorem afterHeal_owed (heal : Heal) : (afterHeal heal).owed = heal.pc.owed := by
  obtain ⟨pc, lastLogs⟩ := heal
  cases pc <;> rfl

/-- The same for the thread, apart from the exit on a dead session. -/
theorem Move.balanced {thread : Thread} {pc pc' : Pc} {answer : Answer} {effect : Effect}
    (moved : Move thread pc answer pc' effect) (alive : answer.reportsDead = false) :
    Balanced pc.owed effect pc'.owed := by
  cases moved with
  | healing moved =>
    rw [afterHeal_owed]
    exact moved.balanced
  | started handle | startedDocker handle => exact .started handle
  | stoppedUnready handle | stoppedCritical handle | stoppedFinished handle => exact .stopped handle
  | seenDead handle silent =>
    have running := bne_eq_false_iff_eq.mp alive
    exact absurd running silent
  | _ => exact .kept rfl

theorem step_balanced {thread thread' : Thread} {answer : Answer} {effect : Effect}
    (alive : answer.reportsDead = false) (stepped : step thread answer = some (thread', effect)) :
    Balanced thread.pc.owed effect thread'.pc.owed := by
  rcases step_cases stepped with ⟨executor, at_, rfl, rfl, rfl⟩ | ⟨handle, created, at_, rfl, rfl, rfl⟩ |
    ⟨pc, moved, rfl⟩
  · rw [at_]
    exact .kept rfl
  · rw [at_]
    exact .kept rfl
  · exact (pcStep_move moved).balanced alive

theorem Answer.ends_alive {answer : Answer} (ended : answer.ends) : answer.reportsDead = false := by
  cases answer with
  | returned | raised => rfl
  | _ => cases ended

/-- The ladder never asks whether the session is alive. -/
theorem HealMove.alive {executor : Executor} {sessionId : String} {heal heal' : Heal} {answer : Answer}
    {effect : Effect} (moved : HealMove executor sessionId heal answer heal' effect) :
    answer.reportsDead = false := by
  cases moved with
  | captured rung read =>
    cases answer with
    | alive => cases read
    | _ => rfl
  | stoppedLast handle logs ended => exact Answer.ends_alive ended
  | _ => rfl

/-- A dead session is only seen in the heartbeat loop, and seeing it leaves. -/
theorem Move.dead {thread : Thread} {pc pc' : Pc} {answer : Answer} {effect : Effect}
    (moved : Move thread pc answer pc' effect) (dead : answer.reportsDead = true) :
    (∃ handle, pc.owed = some handle) ∧ effect = .quiet ∧ pc'.leaving := by
  cases moved with
  | seenDead handle => exact ⟨⟨handle, rfl⟩, rfl, rfl⟩
  | healing moved =>
    rw [moved.alive] at dead
    cases dead
  | stoppedUnready handle ended | stoppedCritical handle alert ended | stoppedFinished handle ended =>
    rw [Answer.ends_alive ended] at dead
    cases dead
  | _ => cases dead

theorem step_dead {thread thread' : Thread} {answer : Answer} {effect : Effect}
    (dead : answer.reportsDead = true) (stepped : step thread answer = some (thread', effect)) :
    (∃ handle, thread.pc.owed = some handle) ∧ effect = .quiet ∧ thread'.pc.leaving := by
  rcases step_cases stepped with ⟨_, _, rfl, _⟩ | ⟨_, _, _, rfl, _⟩ | ⟨pc, moved, rfl⟩
  · cases dead
  · cases dead
  · exact (pcStep_move moved).dead dead

/-- After the exit on a dead session nothing is started or stopped. -/
theorem Move.leaving {thread : Thread} {pc pc' : Pc} {answer : Answer} {effect : Effect}
    (moved : Move thread pc answer pc' effect) (left : pc.leaving) :
    effect.idle ∧ pc'.leaving ∧ answer.reportsDead = false := by
  cases moved with
  | reportedListed | unregistered => exact ⟨rfl, rfl, rfl⟩
  | _ => cases left

theorem step_leaving {thread thread' : Thread} {answer : Answer} {effect : Effect}
    (left : thread.pc.leaving) (stepped : step thread answer = some (thread', effect)) :
    effect.idle ∧ thread'.pc.leaving ∧ answer.reportsDead = false := by
  rcases step_cases stepped with ⟨_, at_, _⟩ | ⟨_, _, at_, _⟩ | ⟨pc, moved, rfl⟩
  · rw [at_] at left
    cases left
  · rw [at_] at left
    cases left
  · exact (pcStep_move moved).leaving left

/-- One effect more: the handle in question was just started, or it was
unstopped before and is not the one stopped now. -/
theorem unstopped_snoc {handle : SessionHandle} {effects : List Effect} {effect : Effect} :
    Unstopped handle (effects ++ [effect]) ↔
      effect = .started handle ∨ (effect ≠ .stopped handle ∧ Unstopped handle effects) :=
  since_snoc

theorem unstopped_idle {handle : SessionHandle} {effects : List Effect} {effect : Effect}
    (idle : effect.idle) : Unstopped handle (effects ++ [effect]) ↔ Unstopped handle effects := by
  rw [unstopped_snoc]
  cases effect with
  | started | stopped => cases idle
  | _ => simp

theorem Balanced.unstopped {owed owed' : Option SessionHandle} {effect : Effect}
    {effects : List Effect} (balanced : Balanced owed effect owed')
    (held : ∀ handle, Unstopped handle effects ↔ owed = some handle) (handle : SessionHandle) :
    Unstopped handle (effects ++ [effect]) ↔ owed' = some handle := by
  cases balanced with
  | started fresh => simp [unstopped_snoc, held]
  | stopped old =>
    simp only [unstopped_snoc, held, Option.some.injEq, reduceCtorEq, false_or, iff_false, not_and]
    rintro kept rfl
    exact kept rfl
  | kept idle => rw [unstopped_idle idle, held]

/-- While no session was seen dead the unstopped handle is the one the program
point holds; afterwards the thread is leaving with an unstopped handle. -/
structure CleanupInv (thread : Thread) (answers : List Answer) (effects : List Effect) : Prop where
  alive : (∀ answer ∈ answers, answer.reportsDead = false) →
    ∀ handle, Unstopped handle effects ↔ thread.pc.owed = some handle
  dead : (∃ answer ∈ answers, answer.reportsDead = true) →
    thread.pc.leaving ∧ ∃ handle, Unstopped handle effects

theorem cleanup_step {thread thread' : Thread} {answers : List Answer} {effects : List Effect}
    {answer : Answer} {effect : Effect} (inv : CleanupInv thread answers effects)
    (stepped : step thread answer = some (thread', effect)) :
    CleanupInv thread' (answers ++ [answer]) (effects ++ [effect]) := by
  by_cases before : ∃ earlier ∈ answers, earlier.reportsDead = true
  · obtain ⟨left, handle, unstopped⟩ := inv.dead before
    obtain ⟨idle, leaves, _⟩ := step_leaving left stepped
    obtain ⟨earlier, member, dead⟩ := before
    constructor
    · intro clean
      rw [clean earlier (by simp [member])] at dead
      cases dead
    · intro _
      exact ⟨leaves, handle, (unstopped_idle idle).mpr unstopped⟩
  · have clean : ∀ earlier ∈ answers, earlier.reportsDead = false := by
      intro earlier member
      exact Bool.eq_false_iff.mpr fun dead => before ⟨earlier, member, dead⟩
    have held := inv.alive clean
    cases now : answer.reportsDead with
    | false =>
      constructor
      · exact fun _ => (step_balanced now stepped).unstopped held
      · rintro ⟨earlier, member, dead⟩
        rcases List.mem_append.mp member with old | new
        · exact absurd ⟨earlier, old, dead⟩ before
        · rw [List.mem_singleton.mp new, now] at dead
          cases dead
    | true =>
      obtain ⟨⟨handle, owes⟩, rfl, leaves⟩ := step_dead now stepped
      constructor
      · intro clean
        rw [clean answer (by simp)] at now
        cases now
      · intro _
        exact ⟨leaves, handle, (unstopped_idle rfl).mpr ((held handle).mpr owes)⟩

theorem cleanup_invariant {sessionId : String} {thread : Thread} {answers : List Answer}
    {effects : List Effect} (ran : Runs.run step (spawn sessionId) answers = some (thread, effects)) :
    CleanupInv thread answers effects := by
  refine Runs.run_invariant ⟨fun _ handle => ?_, ?_⟩ (fun inv stepped => cleanup_step inv stepped) ran
  · simp [Unstopped, spawn, Pc.owed]
  · rintro ⟨_, member, _⟩
    cases member

/-- When the thread has returned, every handle `start_session` handed out was
passed to `stop_session` afterwards exactly if no liveness check of the run
answered `False` or raised. -/
theorem returned_stops_all_iff {sessionId : String} {thread : Thread} {answers : List Answer}
    {effects : List Effect} (ran : Runs.run step (spawn sessionId) answers = some (thread, effects))
    (done : thread.pc = .returned) :
    (∀ handle, ¬ Unstopped handle effects) ↔ ∀ answer ∈ answers, answer.reportsDead = false := by
  have inv := cleanup_invariant ran
  constructor
  · intro stopped answer member
    apply Bool.eq_false_iff.mpr
    intro dead
    obtain ⟨_, handle, unstopped⟩ := inv.dead ⟨answer, member, dead⟩
    exact stopped handle unstopped
  · intro clean handle unstopped
    have owes := (inv.alive clean handle).mp unstopped
    rw [done] at owes
    cases owes

/-! ### The steps that start a container -/

variable {thread thread' : Thread} {pc pc' : Pc} {answer : Answer} {effect : Effect} {handle : SessionHandle}

/-- `start_session` returns a handle. -/
def Answer.startsSession : Answer → Bool
  | .handle _ => true
  | _ => false

theorem Answer.ends_startsNothing (ended : answer.ends) : answer.startsSession = false := by
  cases answer with
  | handle => cases ended
  | _ => rfl

theorem captureLogs_startsNothing {executor : Executor} {logs tail : String}
    (read : captureLogs executor handle logs answer = some (tail, effect)) : answer.startsSession = false := by
  cases answer with
  | handle => cases read
  | _ => rfl

/-- What a step has to do with `start_session`: it returns a handle, which the
thread then holds, or the step starts nothing. -/
def Starts (answer : Answer) (effect : Effect) (owed : Option SessionHandle) : Prop :=
  (∃ handle, answer = .handle handle ∧ effect = .started handle ∧ owed = some handle) ∨
    answer.startsSession = false ∧ ∀ handle, effect ≠ .started handle

theorem HealMove.starts {executor : Executor} {sessionId : String} {heal heal' : Heal}
    (moved : HealMove executor sessionId heal answer heal' effect) : Starts answer effect heal'.pc.owed := by
  cases moved with
  | captured rung read =>
    refine .inr ⟨captureLogs_startsNothing read, ?_⟩
    rcases captureLogs_effect read with rfl | rfl <;> simp
  | stoppedLast handle logs ended => exact .inr ⟨Answer.ends_startsNothing ended, by simp⟩
  | started rung handle => exact .inl ⟨handle, rfl, rfl, rfl⟩
  | _ => exact .inr ⟨rfl, by simp⟩

theorem Move.starts (moved : Move thread pc answer pc' effect) : Starts answer effect pc'.owed := by
  cases moved with
  | healing moved =>
    rw [afterHeal_owed]
    exact moved.starts
  | started handle | startedDocker handle => exact .inl ⟨handle, rfl, rfl, rfl⟩
  | stoppedUnready handle ended | stoppedCritical handle alert ended | stoppedFinished handle ended =>
    exact .inr ⟨Answer.ends_startsNothing ended, by simp⟩
  | _ => exact .inr ⟨rfl, by simp⟩

theorem step_starts (stepped : step thread answer = some (thread', effect)) :
    Starts answer effect thread'.pc.owed := by
  rcases step_cases stepped with ⟨executor, at_, rfl, rfl, rfl⟩ | ⟨handle, created, at_, rfl, rfl, rfl⟩ |
    ⟨pc, moved, rfl⟩
  · exact .inr ⟨rfl, by simp⟩
  · exact .inr ⟨rfl, by simp⟩
  · exact (pcStep_move moved).starts

theorem Balanced.still_none {owed : Option SessionHandle} (balanced : Balanced none effect owed)
    (silent : ∀ handle, effect ≠ .started handle) : owed = none := by
  cases balanced with
  | started handle => exact absurd rfl (silent handle)
  | kept => rfl

/-- A thread that holds nothing and starts nothing holds nothing afterwards. -/
theorem step_owes_nothing (nothing : thread.pc.owed = none) (still : answer.startsSession = false)
    (stepped : step thread answer = some (thread', effect)) : thread'.pc.owed = none := by
  cases dead : answer.reportsDead with
  | true =>
    obtain ⟨⟨handle, owes⟩, _⟩ := step_dead dead stepped
    rw [nothing] at owes
    cases owes
  | false =>
    have balanced := step_balanced dead stepped
    rw [nothing] at balanced
    rcases step_starts stepped with ⟨handle, rfl, _⟩ | ⟨_, silent⟩
    · cases still
    · exact balanced.still_none silent

/-- A Docker session up to its first heartbeat. -/
def healthyStart (handle : SessionHandle) : List Answer :=
  [.created .docker, .handle handle, .probe none, .returned, .http true, .monitor true,
    .stopEvent false]

/-- The renter terminates the session. -/
def renterTerminates : List Answer :=
  healthyStart ⟨40001, "tok", some "c1", none, "docker"⟩ ++ [.heartbeat .terminate, .returned, .http true, .returned]

/-- One `docker inspect` fails while the container runs. -/
def inspectFails : List Answer :=
  healthyStart ⟨40001, "tok", some "c1", none, "docker"⟩ ++
    [.heartbeat .goOn, .alive (some false), .http true, .returned]

theorem returned_stops_all_iff_terminated :
    ∃ (thread : Thread) (effects : List Effect),
      Runs.run step (spawn "s1") renterTerminates = some (thread, effects) ∧
        thread.pc = .returned ∧ ∀ handle, ¬ Unstopped handle effects :=
  ⟨_, _, rfl, rfl, (@returned_stops_all_iff "s1" _ renterTerminates _ rfl rfl).mpr (by decide)⟩

/-- After the failed check the thread returns and its container was never
stopped. -/
theorem failed_inspect_leaves_container :
    ∃ (thread : Thread) (effects : List Effect),
      Runs.run step (spawn "s1") inspectFails = some (thread, effects) ∧
        thread.pc = .returned ∧ Unstopped ⟨40001, "tok", some "c1", none, "docker"⟩ effects :=
  ⟨_, _, rfl, rfl, [.quiet], _, _, rfl, rfl, by decide⟩

end ComputeCloudNode.WorkbenchSession
