import ComputeCloudNode.SessionCleanup

/-! What a session thread tells the server. Over all exits the messages are at
most one `session/ready`, then heartbeats and alerts if it succeeded, then exactly
one `session/terminated`; and a ready report always speaks of a running,
verified container. -/
namespace ComputeCloudNode.WorkbenchSession
open Traces

variable {thread thread' : Thread} {answer : Answer} {effect : Effect} {effects : List Effect}
  {sessionId : String} {sent : List (Message × Bool)}

/-- The messages of a trace with what the thread saw of them. -/
def messages (effects : List Effect) : List (Message × Bool) :=
  effects.filterMap fun
    | .sent message ok => some (message, ok)
    | _ => none

/-- The message an effect adds. -/
def Effect.message : Effect → List (Message × Bool)
  | .sent message ok => [(message, ok)]
  | _ => []

theorem messages_snoc : messages (effects ++ [effect]) = messages effects ++ effect.message := by
  rw [messages, List.filterMap_append, messages]
  cases effect <;> rfl

/-- Messages of the heartbeat loop. -/
def Message.duringSession (sessionId : String) : Message → Prop
  | .heartbeat id => id = sessionId
  | .alert id _ => id = sessionId
  | _ => False

/-- No ready report succeeded: none was sent, or one was sent and failed. -/
def NotReady (sessionId : String) (sent : List (Message × Bool)) : Prop :=
  sent = [] ∨ ∃ port token, sent = [(.ready sessionId port token, false)]

/-- One successful ready report, then heartbeats and alerts. -/
def WasReady (sessionId : String) (sent : List (Message × Bool)) : Prop :=
  ∃ port token body, sent = (.ready sessionId port token, true) :: body ∧
    ∀ entry ∈ body, entry.1.duringSession sessionId

/-- A finished conversation: exactly one `session/terminated`, at the end, with
reason `failed` exactly when the session was never reported ready. -/
def Concluded (sessionId : String) (sent : List (Message × Bool)) : Prop :=
  ∃ body reason message ok, sent = body ++ [(.terminated sessionId reason message, ok)] ∧
    (NotReady sessionId body ∧ reason = "failed" ∨ WasReady sessionId body ∧ reason ≠ "failed")

theorem WasReady.extend (ready : WasReady sessionId sent) (message : Message) (ok : Bool)
    (during : message.duringSession sessionId) : WasReady sessionId (sent ++ [(message, ok)]) := by
  obtain ⟨port, token, body, rfl, inside⟩ := ready
  refine ⟨port, token, body ++ [(message, ok)], rfl, ?_⟩
  intro entry member
  rcases List.mem_append.mp member with old | new
  · exact inside entry old
  · rwa [List.mem_singleton.mp new]

/-- What has been sent when the thread stands at a program point. -/
def Pc.Reported (sessionId : String) (sent : List (Message × Bool)) : Pc → Prop
  | .create | .start | .register _ | .ready _ => sent = []
  | .heal ladder => sent = [] ∧ ladder.pc ≠ .failed
  | .stopUnready _ => NotReady sessionId sent
  | .launch _ | .loopTop _ | .heartbeat _ | .alive _ | .scanDue _ | .scan _ | .alert _ _
  | .stopCritical _ _ | .pause _ | .stopFinished _ => WasReady sessionId sent
  | .report reason _ registered =>
    if registered then WasReady sessionId sent ∧ reason ≠ "failed"
    else NotReady sessionId sent ∧ reason = "failed"
  | .unregister | .returned => Concluded sessionId sent

theorem alertType_ne_failed (alert : AlertType) : alert.text ≠ "failed" := by
  cases alert <;> decide

/-- A step of the ladder sends nothing but its final report. -/
theorem HealMove.message {executor : Executor} {heal heal' : Heal}
    (moved : HealMove executor sessionId heal answer heal' effect) :
    (heal'.pc ≠ .failed ∧ effect.message = []) ∨
      (heal'.pc = .failed ∧ ∃ message ok, effect.message = [(.terminated sessionId "failed" message, ok)]) := by
  cases moved with
  | reported message logs ok => exact .inr ⟨rfl, message, ok, rfl⟩
  | @captured rung handle logs tail answer effect read =>
    refine .inl ⟨fun failed => ?_, ?_⟩
    · obtain ⟨next, same | same⟩ := afterCapture_cases executor handle rung <;> cases same.symm.trans failed
    · rcases captureLogs_effect read with rfl | rfl <;> rfl
  | _ => exact .inl ⟨nofun, rfl⟩

theorem reported_of_silent {pc : Pc} (silent : effect.message = []) (held : pc.Reported sessionId sent) :
    pc.Reported sessionId (sent ++ effect.message) := by
  rwa [silent, List.append_nil]

/-- One step keeps the conversation in order. -/
theorem Move.reported {pc pc' : Pc} (moved : Move thread pc answer pc' effect)
    (so_far : pc.Reported thread.sessionId sent) : pc'.Reported thread.sessionId (sent ++ effect.message) := by
  cases moved with
  | @healing heal heal' answer effect moved =>
    obtain ⟨rfl, running⟩ := so_far
    obtain ⟨at_, lastLogs⟩ := heal'
    rcases moved.message with ⟨goesOn, silent⟩ | ⟨gaveUp, message, ok, told⟩
    · rw [silent]
      cases at_ with
      | healed handle => exact rfl
      | failed => exact absurd rfl goesOn
      | _ => exact ⟨rfl, goesOn⟩
    · rw [told]
      cases gaveUp
      exact ⟨[], "failed", message, ok, rfl, .inl ⟨.inl rfl, rfl⟩⟩
  | createRaised | startRaised => exact reported_of_silent rfl ⟨.inl so_far, rfl⟩
  | startedDocker => exact reported_of_silent rfl ⟨so_far, nofun⟩
  | readyAccepted =>
    rw [show sent = [] from so_far]
    exact ⟨_, _, [], rfl, nofun⟩
  | readyFailed =>
    rw [show sent = [] from so_far]
    exact .inr ⟨_, _, rfl⟩
  | stoppedUnready => exact reported_of_silent rfl ⟨so_far, rfl⟩
  | stoppedCritical handle alert => exact reported_of_silent rfl ⟨so_far, alertType_ne_failed alert.alertType⟩
  | stoppedFinished | seenDead => exact reported_of_silent rfl ⟨so_far, by decide⟩
  | toldToTerminate | beat | alertedCritical | alerted => exact WasReady.extend so_far _ _ rfl
  | reportedListed reason message ok => exact ⟨sent, reason, message, ok, rfl, .inr so_far⟩
  | reportedUnlisted reason message ok => exact ⟨sent, reason, message, ok, rfl, .inl so_far⟩
  | started | registered | stopSeen | goesOn | seenAlive | scans | skipsScan | scannedAlert | scannedClean
  | scanRaised | paused | unregistered => exact reported_of_silent rfl so_far

theorem step_sessionId (stepped : step thread answer = some (thread', effect)) :
    thread'.sessionId = thread.sessionId := by
  rcases step_cases stepped with ⟨_, _, _, _, rfl⟩ | ⟨_, _, _, _, _, rfl⟩ | ⟨_, _, rfl⟩ <;> rfl

theorem step_reported (so_far : thread.pc.Reported thread.sessionId sent)
    (stepped : step thread answer = some (thread', effect)) :
    thread'.pc.Reported thread'.sessionId (sent ++ effect.message) := by
  rcases step_cases stepped with ⟨executor, at_, rfl, rfl, rfl⟩ |
    ⟨handle, created, at_, rfl, rfl, rfl⟩ | ⟨pc, moved, rfl⟩
  · rw [at_] at so_far
    exact reported_of_silent rfl so_far
  · rw [at_] at so_far
    exact reported_of_silent rfl so_far
  · exact (pcStep_move moved).reported so_far

/-- The most recent probe asked this handle and found nothing wrong, and no
container was started or stopped since. -/
def Probed (handle : SessionHandle) (effects : List Effect) : Prop :=
  Since (· = .probed handle none) (fun effect => effect.idle ∧ ∀ other problem, effect ≠ .probed other problem)
    effects

/-- A ready report carries the port and token of a handle that is not stopped
and, for Docker, passed its most recent probe. -/
def ReadyChecked (before : List Effect) (effect : Effect) : Prop :=
  ∀ id port token ok, effect = .sent (.ready id port token) ok →
    ∃ handle : SessionHandle, port = handle.hostPort ∧ token = handle.authToken ∧
      Unstopped handle before ∧ (handle.isDocker → Probed handle before)

/-- The ladder hands back a handle only on a clean probe. -/
theorem HealMove.healed {executor : Executor} {heal heal' : Heal} {handle : SessionHandle}
    (moved : HealMove executor sessionId heal answer heal' effect) (healed : heal'.pc = .healed handle) :
    effect = .probed handle none := by
  cases moved with
  | probedClean | recovered =>
    cases healed
    rfl
  | @captured rung handle =>
    obtain ⟨next, same | same⟩ := afterCapture_cases executor handle rung <;> cases same.symm.trans healed
  | _ => cases healed

/-- The ready report is sent from one program point, with its own handle. -/
theorem Move.ready {pc pc' : Pc} {id token : String} {port : Nat} {ok : Bool}
    (moved : Move thread pc answer pc' (.sent (.ready id port token) ok)) :
    ∃ handle, pc = .ready handle ∧ port = handle.hostPort ∧ token = handle.authToken := by
  cases moved with
  | readyAccepted handle | readyFailed handle => exact ⟨handle, rfl, rfl, rfl⟩
  | healing moved =>
    rcases moved.message with ⟨_, silent⟩ | ⟨_, message, ok, told⟩
    · cases silent
    · cases told

/-- A handle that awaits its ready report is not a Docker handle, was just
probed, or was registered in the step before. -/
theorem Move.awaits_ready {pc pc' : Pc} {handle : SessionHandle} (moved : Move thread pc answer pc' effect)
    (awaits : pc' = .register handle ∨ pc' = .ready handle) :
    handle.isDocker = false ∨ effect = .probed handle none ∨
      (pc = .register handle ∧ effect = .registered handle) := by
  cases moved with
  | started held other =>
    rcases awaits with same | same <;> cases same
    exact .inl other
  | @healing heal heal' answer effect moved =>
    obtain ⟨at_, lastLogs⟩ := heal'
    cases at_ with
    | healed held =>
      rcases awaits with same | same <;> cases same
      exact .inr (.inl (moved.healed rfl))
    | _ => rcases awaits with same | same <;> cases same
  | registered held =>
    rcases awaits with same | same <;> cases same
    exact .inr (.inr ⟨rfl, rfl⟩)
  | _ => rcases awaits with same | same <;> cases same

/-- A handle that a program point holds is running. -/
theorem CleanupInv.unstopped {answers : List Answer} {handle : SessionHandle}
    (inv : CleanupInv thread answers effects) (owes : thread.pc.owed = some handle) :
    Unstopped handle effects := by
  by_cases dead : ∃ answer ∈ answers, answer.reportsDead = true
  · have left := (inv.dead dead).1
    cases at_ : thread.pc with
    | report | unregister | returned =>
      rw [at_] at owes
      cases owes
    | _ =>
      rw [at_] at left
      cases left
  · refine (inv.alive ?_ handle).mpr owes
    intro answer member
    exact Bool.eq_false_iff.mpr fun now => dead ⟨answer, member, now⟩

/-- The handles that await a ready report are probed, and every ready report
sent so far was checked. -/
structure ReadyInv (thread : Thread) (effects : List Effect) : Prop where
  probed : ∀ handle, thread.pc = .register handle ∨ thread.pc = .ready handle → handle.isDocker →
    Probed handle effects
  ready : Each ReadyChecked effects

theorem ready_step {answers : List Answer} (cleanup : CleanupInv thread answers effects)
    (inv : ReadyInv thread effects) (stepped : step thread answer = some (thread', effect)) :
    ReadyInv thread' (effects ++ [effect]) := by
  rcases step_cases stepped with ⟨executor, at_, rfl, rfl, rfl⟩ |
    ⟨handle, created, at_, rfl, rfl, rfl⟩ | ⟨pc, moved, rfl⟩
  · refine ⟨fun handle awaits => ?_, each_snoc.mpr ⟨inv.ready, fun _ _ _ _ same => by cases same⟩⟩
    rcases awaits with same | same <;> cases same
  · refine ⟨fun handle awaits => ?_, each_snoc.mpr ⟨inv.ready, fun _ _ _ _ same => by cases same⟩⟩
    rcases awaits with same | same <;> cases same
  · refine ⟨fun handle awaits docker => ?_, each_snoc.mpr ⟨inv.ready, ?_⟩⟩
    · rcases (pcStep_move moved).awaits_ready awaits with other | rfl | ⟨at_, rfl⟩
      · rw [other] at docker
        cases docker
      · exact since_snoc.mpr (.inl rfl)
      · exact since_snoc.mpr (.inr ⟨⟨rfl, by simp⟩, inv.probed handle (.inl at_) docker⟩)
    · rintro id port token ok rfl
      obtain ⟨handle, at_, rfl, rfl⟩ := (pcStep_move moved).ready
      exact ⟨handle, rfl, rfl, cleanup.unstopped (by rw [at_]; rfl), inv.probed handle (.inr at_)⟩

/-- Everything that holds of a session thread and its trace at any time. -/
structure SessionInv (sessionId : String) (thread : Thread) (answers : List Answer)
    (effects : List Effect) : Prop where
  named : thread.sessionId = sessionId
  cleanup : CleanupInv thread answers effects
  reported : thread.pc.Reported sessionId (messages effects)
  ready : ReadyInv thread effects

theorem session_invariant {answers : List Answer}
    (ran : Runs.run step (spawn sessionId) answers = some (thread, effects)) :
    SessionInv sessionId thread answers effects := by
  refine Runs.run_invariant (I := SessionInv sessionId) ?_ ?_ ran
  · refine ⟨rfl, cleanup_invariant (Runs.run_nil), rfl, ⟨?_, each_nil⟩⟩
    intro handle awaits
    rcases awaits with same | same <;> cases same
  · intro before answers effects answer after effect inv stepped
    have named : after.sessionId = sessionId := (step_sessionId stepped).trans inv.named
    have reported := inv.reported
    rw [← inv.named] at reported
    have reports := step_reported reported stepped
    rw [named, ← messages_snoc] at reports
    exact ⟨named, cleanup_step inv.cleanup stepped, reports, ready_step inv.cleanup inv.ready stepped⟩

/-- The report protocol of a session thread that has returned: the conversation
is concluded, every ready report spoke of a running and, for Docker, freshly
probed container, and nothing more can be sent. -/
theorem session_report_protocol {answers : List Answer}
    (ran : Runs.run step (spawn sessionId) answers = some (thread, effects))
    (done : thread.pc = .returned) :
    Concluded sessionId (messages effects) ∧ Each ReadyChecked effects ∧
      ∀ answer, step thread answer = none := by
  have inv := session_invariant ran
  have concluded := inv.reported
  rw [done] at concluded
  refine ⟨concluded, inv.ready.ready, fun answer => ?_⟩
  obtain ⟨id, executor, monitored, pc⟩ := thread
  cases done
  cases answer <;> rfl

theorem session_report_protocol_terminated :
    ∃ (thread : Thread) (effects : List Effect),
      Runs.run step (spawn "s1") renterTerminates = some (thread, effects) ∧
        Concluded "s1" (messages effects) ∧ Each ReadyChecked effects ∧
        ∀ answer, step thread answer = none :=
  ⟨_, _, rfl, @session_report_protocol _ _ "s1" renterTerminates rfl rfl⟩

end ComputeCloudNode.WorkbenchSession
