import ComputeCloudNode.WorkbenchSession

/-! Everything one step of a session thread can do, the ladder's steps included:
one transition for each way the call a program point waits for can be answered.
The invariants of the thread are read off these transitions. -/
namespace ComputeCloudNode.WorkbenchSession

/-- A call came back, normally or by an exception. -/
def Answer.ends : Answer → Bool
  | .returned | .raised _ => true
  | _ => false

/-- A call whose exception is swallowed goes on to the same point either way. -/
theorem swallowed_eq {pc pc' : Pc} {effect shown : Effect} {answer : Answer}
    (stepped : swallowed pc effect answer = some (pc', shown)) : answer.ends ∧ pc' = pc ∧ shown = effect := by
  cases answer <;> cases stepped <;> exact ⟨rfl, rfl, rfl⟩

/-- The transitions of `_verify_and_heal_session`. -/
inductive HealMove (executor : Executor) (sessionId : String) : Heal → Answer → Heal → Effect → Prop
  | probedClean (handle : SessionHandle) (attempt : Nat) (logs : String) :
    HealMove executor sessionId ⟨.probe handle attempt, logs⟩ (.probe none) ⟨.healed handle, logs⟩ (.probed handle none)
  | probesAgain (handle : SessionHandle) {attempt : Nat} (logs problem : String) (more : attempt + 1 < 3) :
    HealMove executor sessionId ⟨.probe handle attempt, logs⟩ (.probe (some problem))
      ⟨.probe handle (attempt + 1), logs⟩ (.probed handle (some problem))
  | probesFailed (handle : SessionHandle) {attempt : Nat} (logs problem : String) (last : ¬ attempt + 1 < 3) :
    HealMove executor sessionId ⟨.probe handle attempt, logs⟩ (.probe (some problem))
      ⟨.capture .restart handle, logs⟩ (.probed handle (some problem))
  | captured (rung : Rung) {handle : SessionHandle} {logs tail : String} {answer : Answer} {effect : Effect}
    (read : captureLogs executor handle logs answer = some (tail, effect)) :
    HealMove executor sessionId ⟨.capture rung handle, logs⟩ answer ⟨afterCapture executor handle rung, tail⟩ effect
  | stoppedLast (handle : SessionHandle) (logs : String) {answer : Answer} (ended : answer.ends) :
    HealMove executor sessionId ⟨.stop .giveUp handle, logs⟩ answer ⟨.report (exhausted logs), logs⟩ (.stopped handle)
  | stoppedToRestart (handle : SessionHandle) (logs : String) :
    HealMove executor sessionId ⟨.stop .restart handle, logs⟩ .returned ⟨.start .restart, logs⟩ (.stopped handle)
  | stoppedToPull (handle : SessionHandle) (logs : String) :
    HealMove executor sessionId ⟨.stop .repull handle, logs⟩ .returned ⟨.pull, logs⟩ (.stopped handle)
  | stopRaised {rung : Rung} (handle : SessionHandle) (logs text : String) (more : rung ≠ .giveUp) :
    HealMove executor sessionId ⟨.stop rung handle, logs⟩ (.raised text) ⟨.report (rung.failure text), logs⟩
      (.stopped handle)
  | pulled (logs : String) : HealMove executor sessionId ⟨.pull, logs⟩ .returned ⟨.start .repull, logs⟩ .quiet
  | pullRaised (logs text : String) :
    HealMove executor sessionId ⟨.pull, logs⟩ (.raised text) ⟨.report (Rung.repull.failure text), logs⟩ .quiet
  | started (rung : Rung) (handle : SessionHandle) (logs : String) :
    HealMove executor sessionId ⟨.start rung, logs⟩ (.handle handle) ⟨.recheck rung handle, logs⟩ (.started handle)
  | startRaised (rung : Rung) (logs text : String) :
    HealMove executor sessionId ⟨.start rung, logs⟩ (.raised text) ⟨.report (rung.failure text), logs⟩ .quiet
  | recovered (rung : Rung) (handle : SessionHandle) (logs : String) :
    HealMove executor sessionId ⟨.recheck rung handle, logs⟩ (.probe none) ⟨.healed handle, logs⟩ (.probed handle none)
  | stillDown (rung : Rung) (handle : SessionHandle) (logs problem : String) :
    HealMove executor sessionId ⟨.recheck rung handle, logs⟩ (.probe (some problem))
      ⟨.capture (nextRung rung) handle, logs⟩ (.probed handle (some problem))
  | reported (message logs : String) (ok : Bool) :
    HealMove executor sessionId ⟨.report message, logs⟩ (.http ok) ⟨.failed, logs⟩
      (.sent (.terminated sessionId "failed" message) ok)

theorem healStep_move {executor : Executor} {sessionId : String} {heal heal' : Heal} {answer : Answer}
    {effect : Effect} (stepped : healStep executor sessionId heal answer = some (heal', effect)) :
    HealMove executor sessionId heal answer heal' effect := by
  obtain ⟨pc, logs⟩ := heal
  cases pc with
  | probe handle attempt =>
    cases answer with
    | probe problem =>
      cases stepped
      cases problem with
      | none => exact .probedClean handle attempt logs
      | some problem =>
        dsimp only
        split
        next more => exact .probesAgain handle logs problem more
        next last => exact .probesFailed handle logs problem last
    | _ => cases stepped
  | capture rung handle =>
    simp only [healStep, Option.map_eq_some_iff, Prod.exists, Prod.mk.injEq] at stepped
    obtain ⟨tail, shown, read, rfl, rfl⟩ := stepped
    exact .captured rung read
  | stop rung handle =>
    cases answer with
    | returned =>
      cases rung <;> cases stepped
      · exact .stoppedToRestart handle logs
      · exact .stoppedToPull handle logs
      · exact .stoppedLast handle logs rfl
    | raised text =>
      cases rung <;> cases stepped
      · exact .stopRaised handle logs text (by decide)
      · exact .stopRaised handle logs text (by decide)
      · exact .stoppedLast handle logs rfl
    | _ => cases rung <;> cases stepped
  | pull =>
    cases answer <;> cases stepped
    · exact .pulled logs
    · exact .pullRaised logs _
  | start rung =>
    cases answer <;> cases stepped
    · exact .startRaised rung logs _
    · exact .started rung _ logs
  | recheck rung handle =>
    cases answer with
    | probe problem =>
      cases stepped
      cases problem with
      | none => exact .recovered rung handle logs
      | some problem => exact .stillDown rung handle logs problem
    | _ => cases stepped
  | report message =>
    cases answer <;> cases stepped
    exact .reported message logs _
  | healed | failed => cases answer <;> cases stepped

/-- The transitions of `_run_session_container` that leave `executor` and
`security_monitor` alone. -/
inductive Move (thread : Thread) : Pc → Answer → Pc → Effect → Prop
  | createRaised (text : String) : Move thread .create (.raised text) (.report "failed" text false) .quiet
  | started (handle : SessionHandle) (other : handle.isDocker = false) :
    Move thread .start (.handle handle) (.register handle) (.started handle)
  | startedDocker (handle : SessionHandle) (docker : handle.isDocker) :
    Move thread .start (.handle handle) (.heal { pc := .probe handle 0 }) (.started handle)
  | startRaised (text : String) : Move thread .start (.raised text) (.report "failed" text false) .quiet
  | healing {heal heal' : Heal} {answer : Answer} {effect : Effect}
    (moved : HealMove thread.executor thread.sessionId heal answer heal' effect) :
    Move thread (.heal heal) answer (afterHeal heal') effect
  | registered (handle : SessionHandle) : Move thread (.register handle) .returned (.ready handle) (.registered handle)
  | readyAccepted (handle : SessionHandle) : Move thread (.ready handle) (.http true) (.launch handle)
      (.sent (.ready thread.sessionId handle.hostPort handle.authToken) true)
  | readyFailed (handle : SessionHandle) : Move thread (.ready handle) (.http false) (.stopUnready handle)
      (.sent (.ready thread.sessionId handle.hostPort handle.authToken) false)
  | stoppedUnready (handle : SessionHandle) {answer : Answer} (ended : answer.ends) :
    Move thread (.stopUnready handle) answer (.report "failed" "report ready failed" false) (.stopped handle)
  | stopSeen (handle : SessionHandle) :
    Move thread (.loopTop handle) (.stopEvent true) (.stopFinished handle) .quiet
  | goesOn (handle : SessionHandle) :
    Move thread (.loopTop handle) (.stopEvent false) (.heartbeat handle) .quiet
  | toldToTerminate (handle : SessionHandle) : Move thread (.heartbeat handle) (.heartbeat .terminate)
      (.stopFinished handle) (.sent (.heartbeat thread.sessionId) true)
  | beat (handle : SessionHandle) {reply : HeartbeatReply} (stays : reply ≠ .terminate) :
    Move thread (.heartbeat handle) (.heartbeat reply) (.alive handle)
      (.sent (.heartbeat thread.sessionId) (reply != .failed))
  | seenAlive (handle : SessionHandle) :
    Move thread (.alive handle) (.alive (some true)) (.scanDue handle) .quiet
  | seenDead (handle : SessionHandle) {answer : Option Bool} (silent : answer ≠ some true) :
    Move thread (.alive handle) (.alive answer) (.report "completed" "Session process exited" true) .quiet
  | scans (handle : SessionHandle) {due : Bool} (wanted : thread.monitored && handle.hasContainer && due) :
    Move thread (.scanDue handle) (.scanDue due) (.scan handle) .quiet
  | skipsScan (handle : SessionHandle) {due : Bool} (unwanted : ¬ (thread.monitored && handle.hasContainer && due)) :
    Move thread (.scanDue handle) (.scanDue due) (.pause handle) .quiet
  | scannedAlert (handle : SessionHandle) (alert : SecurityAlert) :
    Move thread (.scan handle) (.scanned (some alert)) (.alert handle alert) .quiet
  | scannedClean (handle : SessionHandle) : Move thread (.scan handle) (.scanned none) (.pause handle) .quiet
  | scanRaised (handle : SessionHandle) (text : String) :
    Move thread (.scan handle) (.raised text) (.pause handle) .quiet
  | alertedCritical (handle : SessionHandle) {alert : SecurityAlert} (ok : Bool) (critical : alert.severity = .critical) :
    Move thread (.alert handle alert) (.http ok) (.stopCritical handle alert)
      (.sent (.alert thread.sessionId alert) ok)
  | alerted (handle : SessionHandle) {alert : SecurityAlert} (ok : Bool) (mild : alert.severity ≠ .critical) :
    Move thread (.alert handle alert) (.http ok) (.pause handle) (.sent (.alert thread.sessionId alert) ok)
  | stoppedCritical (handle : SessionHandle) (alert : SecurityAlert) {answer : Answer} (ended : answer.ends) :
    Move thread (.stopCritical handle alert) answer (.report alert.alertType.text alert.details true)
      (.stopped handle)
  | paused (handle : SessionHandle) : Move thread (.pause handle) .returned (.loopTop handle) .quiet
  | stoppedFinished (handle : SessionHandle) {answer : Answer} (ended : answer.ends) :
    Move thread (.stopFinished handle) answer (.report "completed" "Terminated by renter" true) (.stopped handle)
  | reportedListed (reason message : String) (ok : Bool) :
    Move thread (.report reason message true) (.http ok) .unregister
      (.sent (.terminated thread.sessionId reason message) ok)
  | reportedUnlisted (reason message : String) (ok : Bool) :
    Move thread (.report reason message false) (.http ok) .returned
      (.sent (.terminated thread.sessionId reason message) ok)
  | unregistered : Move thread .unregister .returned .returned .unregistered

theorem pcStep_move {thread : Thread} {pc pc' : Pc} {answer : Answer} {effect : Effect}
    (stepped : pcStep thread pc answer = some (pc', effect)) : Move thread pc answer pc' effect := by
  cases pc with
  | heal ladder =>
    simp only [pcStep, Option.map_eq_some_iff, Prod.exists, Prod.mk.injEq] at stepped
    obtain ⟨heal', shown, healed, rfl, rfl⟩ := stepped
    exact .healing (healStep_move healed)
  | stopUnready handle =>
    obtain ⟨ended, rfl, rfl⟩ := swallowed_eq stepped
    exact .stoppedUnready handle ended
  | stopCritical handle alert =>
    obtain ⟨ended, rfl, rfl⟩ := swallowed_eq stepped
    exact .stoppedCritical handle alert ended
  | stopFinished handle =>
    obtain ⟨ended, rfl, rfl⟩ := swallowed_eq stepped
    exact .stoppedFinished handle ended
  | create =>
    cases answer <;> cases stepped
    exact .createRaised _
  | start =>
    cases answer with
    | handle handle =>
      cases stepped
      split
      next docker => exact .startedDocker handle docker
      next other => exact .started handle (Bool.eq_false_iff.mpr other)
    | raised text =>
      cases stepped
      exact .startRaised text
    | _ => cases stepped
  | register handle =>
    cases answer <;> cases stepped
    exact .registered handle
  | ready handle =>
    cases answer with
    | http ok =>
      cases ok <;> cases stepped
      · exact .readyFailed handle
      · exact .readyAccepted handle
    | _ => cases stepped
  | loopTop handle =>
    cases answer with
    | stopEvent set =>
      cases set <;> cases stepped
      · exact .goesOn handle
      · exact .stopSeen handle
    | _ => cases stepped
  | heartbeat handle =>
    cases answer with
    | heartbeat reply =>
      cases reply <;> cases stepped
      · exact .beat handle (by decide)
      · exact .toldToTerminate handle
      · exact .beat handle (by decide)
    | _ => cases stepped
  | alive handle =>
    cases answer with
    | alive answer =>
      cases stepped
      split
      next running => exact running ▸ .seenAlive handle
      next silent => exact .seenDead handle silent
    | _ => cases stepped
  | scanDue handle =>
    cases answer with
    | scanDue due =>
      cases stepped
      split
      next wanted => exact .scans handle wanted
      next unwanted => exact .skipsScan handle unwanted
    | _ => cases stepped
  | scan handle =>
    cases answer with
    | scanned alert =>
      cases alert with
      | none =>
        cases stepped
        exact .scannedClean handle
      | some alert =>
        cases stepped
        exact .scannedAlert handle alert
    | raised text =>
      cases stepped
      exact .scanRaised handle text
    | _ => cases stepped
  | alert handle alert =>
    cases answer with
    | http ok =>
      cases stepped
      split
      next critical => exact .alertedCritical handle ok critical
      next mild => exact .alerted handle ok mild
    | _ => cases stepped
  | pause handle =>
    cases answer <;> cases stepped
    exact .paused handle
  | report reason message registered =>
    cases answer with
    | http ok =>
      cases registered <;> cases stepped
      · exact .reportedUnlisted reason message ok
      · exact .reportedListed reason message ok
    | _ => cases stepped
  | unregister =>
    cases answer <;> cases stepped
    exact .unregistered
  | launch | returned => cases answer <;> cases stepped

/-- Everything a step can be: the executor is created, the tunnel and the
monitor are set up, or only the program point moves. -/
theorem step_cases {thread thread' : Thread} {answer : Answer} {effect : Effect}
    (stepped : step thread answer = some (thread', effect)) :
    (∃ executor, thread.pc = .create ∧ answer = .created executor ∧ effect = .quiet ∧
      thread' = { thread with executor := executor, pc := .start }) ∨
    (∃ handle created, thread.pc = .launch handle ∧ answer = .monitor created ∧
      effect = .tunnelStarted handle ∧
      thread' = { thread with monitored := handle.isDocker && created, pc := .loopTop handle }) ∨
    (∃ pc, pcStep thread thread.pc answer = some (pc, effect) ∧ thread' = { thread with pc := pc }) := by
  unfold step at stepped
  split at stepped
  next executor at_ =>
    cases stepped
    exact .inl ⟨executor, at_, rfl, rfl, rfl⟩
  next handle created at_ =>
    cases stepped
    exact .inr (.inl ⟨handle, created, at_, rfl, rfl, rfl⟩)
  next =>
    simp only [Option.map_eq_some_iff, Prod.exists, Prod.mk.injEq] at stepped
    obtain ⟨pc, shown, moved, rfl, rfl⟩ := stepped
    exact .inr (.inr ⟨pc, moved, rfl⟩)

end ComputeCloudNode.WorkbenchSession
