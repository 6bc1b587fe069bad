import ComputeCloudNode.ContainerScans
import ComputeCloudNode.SessionReports

/-! A session thread with its security monitor. The thread scans its container with the
monitor that it made before its loop, and what a scan finds decides how the session ends:
over every run it is terminated for a miner exactly if a scan saw one, and for its CPU
usage exactly if enough scans in a row were high.

The monitor is there from the start, and the thread uses it if it could make it. -/
namespace ComputeCloudNode.ScannedSessions
open WorkbenchSession SecurityMonitor ContainerScans
open LocalExecutor (PyFloat)

variable {F : Type}

/-- What a call of the thread answers. A scan reads what the Docker CLI answers. -/
inductive Input
  | answer (answer : Answer)
  | scan (top stats : Ending)

/-- The thread and its `SecurityMonitor`. -/
structure State (F : Type) where
  thread : Thread
  monitor : SecurityMonitor F

def isScan : Pc → Bool
  | .scan _ => true
  | _ => false

section Machine

variable [PyRuntime F] [PyFloat F] [LinearOrder F]

variable (lower : String → String) (zero : F) (exact : F → ℚ)

omit [PyRuntime F] [PyFloat F] [LinearOrder F] in
/-- The alert as the thread sees it. -/
def seen (alert : Alert F) : SecurityAlert where
  alertType := alert.alertType
  severity := alert.severity
  details := alert.details
  processNames := alert.processNames
  cpuPercent := (alert.cpuPercent.map exact).getD 0

/-- One step of `_run_session_container`, which calls `scan_container` itself. -/
def step : Runs.Step (State F) Input Effect := fun state input =>
  match input with
  | .answer answer =>
    if isScan state.thread.pc then none
    else (WorkbenchSession.step state.thread answer).map fun (thread, effect) => ({ state with thread }, effect)
  | .scan top stats =>
    let (alert, monitor) := ContainerScans.scan lower zero state.monitor top stats
    (WorkbenchSession.step state.thread (.scanned (alert.map (seen exact)))).map fun (thread, effect) =>
      ({ thread, monitor : State F }, effect)

omit [PyRuntime F] [PyFloat F] [LinearOrder F] in
/-- A new thread; the monitor is `SecurityMonitor(95.0, 10)`. -/
def spawn (threshold : F) (sessionId : String) : State F where
  thread := WorkbenchSession.spawn sessionId
  monitor := { cpuThreshold := threshold, sustainedChecks := 10 }

omit [PyRuntime F] [LinearOrder F] in
/-- The scans of a run, with what they read. -/
def scans (inputs : List Input) : List (Call F) :=
  inputs.filterMap fun
    | .answer _ => none
    | .scan top stats => some (.scan (getContainerProcesses top) (getContainerCpu zero stats))

end Machine

variable {lower : String → String} {threshold zero : F} {exact : F → ℚ} {sessionId : String}

/-! ### What the scans say -/

section Verdicts

variable [PyRuntime F] [LinearOrder F] {calls : List (Call F)} {call : Call F} {monitor : SecurityMonitor F}
  {procNames : List String} {cpuPercent : F}

variable (lower) in
omit [PyRuntime F] [LinearOrder F] in
/-- A scan saw a miner. -/
def Mined (calls : List (Call F)) : Prop :=
  ∃ procNames cpuPercent, .scan procNames cpuPercent ∈ calls ∧ NamesMiner lower procNames

variable (lower threshold) in
omit [PyRuntime F] in
/-- At some time the last ten samples had all reached the threshold. -/
def Overused (calls : List (Call F)) : Prop :=
  ∃ before, before <+: calls ∧ Sustained threshold 10 (samples lower before)

variable (lower threshold) in
omit [PyRuntime F] in
/-- Why a session is to be terminated, if it is. -/
def Verdict (calls : List (Call F)) : Option AlertType → Prop
  | none => ¬ Mined lower calls ∧ ¬ Overused lower threshold calls
  | some .miningDetected => Mined lower calls ∧ ¬ Overused lower threshold calls
  | some .anomalyCpu => ¬ Mined lower calls ∧ Overused lower threshold calls
  | some .suspiciousProcess => False

omit [PyRuntime F] in
theorem verdict_text {alertType : AlertType} (verdict : Verdict lower threshold calls (some alertType)) :
    ("mining_detected" = alertType.text ↔ Mined lower calls) ∧
      ("anomaly_cpu" = alertType.text ↔ Overused lower threshold calls) := by
  cases alertType with
  | miningDetected => exact ⟨iff_of_true rfl verdict.1, iff_of_false (by simp [AlertType.text]) verdict.2⟩
  | anomalyCpu => exact ⟨iff_of_false (by simp [AlertType.text]) verdict.1, iff_of_true rfl verdict.2⟩
  | suspiciousProcess => exact verdict.elim

omit [PyRuntime F] [LinearOrder F] in
theorem mined_snoc :
    Mined lower (calls ++ [.scan procNames cpuPercent]) ↔ Mined lower calls ∨ NamesMiner lower procNames := by
  constructor
  · rintro ⟨names, sample, member, miner⟩
    rcases List.mem_append.mp member with old | new
    · exact .inl ⟨names, sample, old, miner⟩
    · cases List.mem_singleton.mp new
      exact .inr miner
  · rintro (⟨names, sample, member, miner⟩ | miner)
    · exact ⟨names, sample, List.mem_append_left _ member, miner⟩
    · exact ⟨procNames, cpuPercent, List.mem_append_right _ List.mem_cons_self, miner⟩

omit [PyRuntime F] in
theorem overused_snoc : Overused lower threshold (calls ++ [call]) ↔
    Overused lower threshold calls ∨ Sustained threshold 10 (samples lower (calls ++ [call])) := by
  simp only [Overused, List.prefix_concat_iff]
  constructor
  · rintro ⟨before, rfl | earlier, high⟩
    · exact .inr high
    · exact .inl ⟨before, earlier, high⟩
  · rintro (⟨before, earlier, high⟩ | high)
    · exact ⟨before, .inr earlier, high⟩
    · exact ⟨_, .inl rfl, high⟩

omit [PyRuntime F] [LinearOrder F] in
theorem samples_snoc : samples lower (calls ++ [call]) = sampled lower (samples lower calls) call := by
  rw [samples, List.foldl_append, ← samples]
  rfl

/-- Only a suspicious name is no reason to terminate the session. -/
theorem scan_severity {alert : Alert F} (raised : (scanContainer lower monitor procNames cpuPercent).1 = some alert) :
    alert.severity = .critical ↔ alert.alertType ≠ .suspiciousProcess := by
  dsimp only [scanContainer] at raised
  split at raised
  next =>
    cases raised
    simp
  next =>
    split at raised
    next =>
      cases raised
      simp
    next =>
      split at raised <;> cases raised
      simp

theorem scan_critical :
    ((scanContainer lower monitor procNames cpuPercent).1.filter fun alert => alert.severity = .critical).map
        Alert.alertType =
      ((scanContainer lower monitor procNames cpuPercent).1.map Alert.alertType).filter (· ≠ .suspiciousProcess) := by
  cases raised : (scanContainer lower monitor procNames cpuPercent).1 with
  | none => rfl
  | some alert =>
    have grave := scan_severity raised
    by_cases mild : alert.alertType = .suspiciousProcess <;> simp [Option.filter_some, grave, mild]

variable (procNames cpuPercent) in
/-- As long as there was no reason to terminate the session, the next scan gives one by a
critical alert. -/
theorem scan_verdict (window : Window threshold 10 (samples lower calls) monitor)
    (calm : Verdict lower threshold calls none) :
    Verdict lower threshold (calls ++ [.scan procNames cpuPercent])
      (((scanContainer lower monitor procNames cpuPercent).1.filter fun alert => alert.severity = .critical).map
        Alert.alertType) := by
  obtain ⟨unmined, unused⟩ := calm
  rw [scan_critical]
  by_cases miner : NamesMiner lower procNames
  · have same : samples lower (calls ++ [.scan procNames cpuPercent]) = samples lower calls := by
      rw [samples_snoc, sampled, if_pos miner]
    rw [(scan_miner miner).1]
    refine ⟨mined_snoc.mpr (.inr miner), fun used => ?_⟩
    rcases overused_snoc.mp used with before | now
    · exact unused before
    · exact unused ⟨calls, List.prefix_refl calls, same ▸ now⟩
  · have more : samples lower (calls ++ [.scan procNames cpuPercent]) = samples lower calls ++ [cpuPercent] := by
      rw [samples_snoc, sampled, if_neg miner]
    have clean : ¬ Mined lower (calls ++ [.scan procNames cpuPercent]) := fun mined =>
      (mined_snoc.mp mined).elim unmined miner
    have high := (window.record (by decide) cpuPercent).high_iff (by decide)
    rw [← more] at high
    by_cases above : High (monitor.record cpuPercent)
    · rw [(scan_high miner above).1]
      exact ⟨clean, overused_snoc.mpr (.inr (high.mp above))⟩
    · have low : ¬ Overused lower threshold (calls ++ [.scan procNames cpuPercent]) := fun used =>
        (overused_snoc.mp used).elim unused (mt high.mpr above)
      by_cases suspicious : NamesSuspicious lower procNames
      · rw [(scan_suspicious miner above suspicious).1]
        exact ⟨clean, low⟩
      · rw [(scan_quiet miner above suspicious).1]
        exact ⟨clean, low⟩

end Verdicts

/-! ### How the thread goes on -/

section Thread

variable {thread : Thread} {pc pc' : Pc} {answer : Answer} {effect : Effect} {effects : List Effect}
  {alert : SecurityAlert}

/-- The two reasons that are not about an alert. -/
def Ordinary (reason : String) : Prop := reason = "failed" ∨ reason = "completed"

/-- No termination is reported but for an ordinary reason. -/
def Plain (effects : List Effect) : Prop :=
  ∀ id reason message ok, .sent (.terminated id reason message) ok ∈ effects → Ordinary reason

/-- No critical alert is at hand. -/
def Calm : Pc → Prop
  | .alert _ alert => alert.severity ≠ .critical
  | .stopCritical _ _ => False
  | .report reason _ _ => Ordinary reason
  | _ => True

theorem plain_snoc : Plain (effects ++ [effect]) ↔ Plain effects ∧ Plain [effect] := by
  simp only [Plain, List.mem_append]
  constructor
  · intro plain
    exact ⟨fun id reason message ok member => plain id reason message ok (.inl member),
      fun id reason message ok member => plain id reason message ok (.inr member)⟩
  · rintro ⟨before, now⟩ id reason message ok (member | member)
    · exact before id reason message ok member
    · exact now id reason message ok member

theorem HealMove.plain {executor : Executor} {heal heal' : Heal}
    (moved : HealMove executor sessionId heal answer heal' effect) : Plain [effect] := by
  intro id reason message ok member
  rw [← List.mem_singleton.mp member] at moved
  rcases HealMove.message moved with ⟨-, silent⟩ | ⟨-, text, shown, same⟩
  · cases silent
  · cases same
    exact .inl rfl

theorem calm_afterHeal (heal : Heal) : Calm (afterHeal heal) := by
  unfold afterHeal
  split <;> trivial

/-- Without a scan and without a critical alert the thread stays calm. -/
theorem Move.calm (moved : Move thread pc answer pc' effect) (unscanned : isScan pc = false) (calm : Calm pc) :
    Calm pc' ∧ Plain [effect] := by
  cases moved with
  | healing moved => exact ⟨calm_afterHeal _, HealMove.plain moved⟩
  | createRaised | startRaised => exact ⟨.inl rfl, by simp [Plain]⟩
  | stoppedUnready => exact ⟨.inl rfl, by simp [Plain]⟩
  | seenDead | stoppedFinished => exact ⟨.inr rfl, by simp [Plain]⟩
  | scannedAlert | scannedClean | scanRaised => cases unscanned
  | alertedCritical handle ok critical => exact absurd critical calm
  | stoppedCritical => exact calm.elim
  | reportedListed reason message ok =>
    refine ⟨trivial, fun id other text told member => ?_⟩
    cases List.mem_singleton.mp member
    exact calm
  | reportedUnlisted reason message ok =>
    refine ⟨trivial, fun id other text told member => ?_⟩
    cases List.mem_singleton.mp member
    exact calm
  | _ => exact ⟨trivial, by simp [Plain]⟩

variable (sessionId alert) in
/-- A critical alert ends the session: it is sent, the session is stopped, reported and
taken off the list. -/
inductive Alarmed : Pc → List Effect → Prop
  | raised {handle : SessionHandle} {early : List Effect} (plain : Plain early) : Alarmed (.alert handle alert) early
  | sent {handle : SessionHandle} {early : List Effect} {ok : Bool} (plain : Plain early) :
    Alarmed (.stopCritical handle alert) (early ++ [.sent (.alert sessionId alert) ok])
  | stopped {handle : SessionHandle} {early : List Effect} {ok : Bool} (plain : Plain early) :
    Alarmed (.report alert.alertType.text alert.details true)
      (early ++ [.sent (.alert sessionId alert) ok, .stopped handle])
  | reported {handle : SessionHandle} {early : List Effect} {ok told : Bool} (plain : Plain early) :
    Alarmed .unregister (early ++ [.sent (.alert sessionId alert) ok, .stopped handle,
      .sent (.terminated sessionId alert.alertType.text alert.details) told])
  | unlisted {handle : SessionHandle} {early : List Effect} {ok told : Bool} (plain : Plain early) :
    Alarmed .returned (early ++ [.sent (.alert sessionId alert) ok, .stopped handle,
      .sent (.terminated sessionId alert.alertType.text alert.details) told, .unregistered])

theorem Move.alarmed (moved : Move thread pc answer pc' effect) (named : thread.sessionId = sessionId)
    (critical : alert.severity = .critical) (alarmed : Alarmed sessionId alert pc effects) :
    Alarmed sessionId alert pc' (effects ++ [effect]) := by
  subst named
  cases alarmed with
  | raised plain =>
    cases moved with
    | alertedCritical handle ok => exact .sent plain
    | alerted handle ok mild => exact absurd critical mild
  | sent plain =>
    cases moved
    rw [List.append_assoc]
    exact .stopped plain
  | stopped plain =>
    cases moved
    rw [List.append_assoc]
    exact .reported plain
  | reported plain =>
    cases moved
    rw [List.append_assoc]
    exact .unlisted plain
  | unlisted plain => cases moved

end Thread

/-! ### All runs -/

section Runs

variable [PyRuntime F] [PyFloat F] [LinearOrder F] {state next : State F} {input : Input} {inputs : List Input}
  {effect : Effect} {effects : List Effect}

variable (lower threshold zero sessionId) in
/-- Nothing was found so far, or what was found ends the session. -/
structure Watched (state : State F) (inputs : List Input) (effects : List Effect) : Prop where
  named : state.thread.sessionId = sessionId
  window : Window threshold 10 (samples lower (scans zero inputs)) state.monitor
  ended : Verdict lower threshold (scans zero inputs) none ∧ Plain effects ∧ Calm state.thread.pc ∨
    ∃ alert : SecurityAlert, alert.severity = .critical ∧
      Verdict lower threshold (scans zero inputs) (some alert.alertType) ∧
      Alarmed sessionId alert state.thread.pc effects

/-- The thread only takes a scan where it asked for one. -/
theorem step_scanned {thread thread' : Thread} {alert : Option SecurityAlert}
    (stepped : WorkbenchSession.step thread (.scanned alert) = some (thread', effect)) :
    ∃ handle, thread.pc = .scan handle ∧ effect = .quiet ∧
      thread' = { thread with pc := alert.elim (.pause handle) (.alert handle) } := by
  rcases step_cases stepped with ⟨_, _, impossible, _⟩ | ⟨_, _, _, impossible, _⟩ | ⟨pc, moved, rfl⟩
  · cases impossible
  · cases impossible
  · have move := pcStep_move moved
    generalize at_ : thread.pc = current at move
    cases move with
    | scannedAlert handle alert => exact ⟨handle, rfl, rfl, rfl⟩
    | scannedClean handle => exact ⟨handle, rfl, rfl, rfl⟩
    | healing moved =>
      cases moved with
      | captured rung read => cases read
      | stoppedLast handle logs ended => cases ended
    | stoppedUnready handle ended => cases ended
    | stoppedCritical handle alert ended => cases ended
    | stoppedFinished handle ended => cases ended

omit [PyRuntime F] in
/-- A step of the thread that is no scan. -/
theorem Watched.answer {thread : Thread} {answer : Answer}
    (watched : Watched lower threshold zero sessionId state inputs effects) (unscanned : isScan state.thread.pc = false)
    (moved : WorkbenchSession.step state.thread answer = some (thread, effect)) :
    Watched lower threshold zero sessionId { state with thread } (inputs ++ [.answer answer]) (effects ++ [effect]) := by
  have same : scans zero (inputs ++ [.answer answer]) = scans zero inputs := by simp [scans]
  refine ⟨(step_sessionId moved).trans watched.named, by rw [same]; exact watched.window, ?_⟩
  rw [same]
  rcases watched.ended with ⟨verdict, plain, calm⟩ | ⟨alert, critical, verdict, alarmed⟩
  · refine .inl ⟨verdict, ?_⟩
    rcases step_cases moved with ⟨executor, _, _, rfl, rfl⟩ | ⟨handle, created, _, _, rfl, rfl⟩ | ⟨pc, went, rfl⟩
    · exact ⟨plain_snoc.mpr ⟨plain, by simp [Plain]⟩, trivial⟩
    · exact ⟨plain_snoc.mpr ⟨plain, by simp [Plain]⟩, trivial⟩
    · have kept := Move.calm (pcStep_move went) unscanned calm
      exact ⟨plain_snoc.mpr ⟨plain, kept.2⟩, kept.1⟩
  · refine .inr ⟨alert, critical, verdict, ?_⟩
    rcases step_cases moved with ⟨executor, at_, _, _, rfl⟩ | ⟨handle, created, at_, _, _, rfl⟩ | ⟨pc, went, rfl⟩
    · rw [at_] at alarmed
      cases alarmed
    · rw [at_] at alarmed
      cases alarmed
    · exact Move.alarmed (pcStep_move went) watched.named critical alarmed

/-- A scan. -/
theorem Watched.scan {thread : Thread} {top stats : Ending}
    (watched : Watched lower threshold zero sessionId state inputs effects)
    (moved : WorkbenchSession.step state.thread
      (.scanned ((ContainerScans.scan lower zero state.monitor top stats).1.map (seen exact))) = some (thread, effect)) :
    Watched lower threshold zero sessionId ⟨thread, (ContainerScans.scan lower zero state.monitor top stats).2⟩
      (inputs ++ [.scan top stats]) (effects ++ [effect]) := by
  obtain ⟨handle, at_, rfl, rfl⟩ := step_scanned moved
  have more : scans zero (inputs ++ [.scan top stats]) =
      scans zero inputs ++ [.scan (getContainerProcesses top) (getContainerCpu zero stats)] := by
    simp [scans]
  refine ⟨watched.named, ?_, ?_⟩
  · rw [more, samples_snoc]
    exact scanContainer_window watched.window (by decide)
  rw [more]
  rcases watched.ended with ⟨verdict, plain, -⟩ | ⟨alert, _, _, alarmed⟩
  · have said := scan_verdict (getContainerProcesses top) (getContainerCpu zero stats) watched.window verdict
    have still : Plain (effects ++ [.quiet]) := plain_snoc.mpr ⟨plain, by simp [Plain]⟩
    change Verdict lower threshold _ ((((ContainerScans.scan lower zero state.monitor top stats).1).filter _).map _) at said
    cases found : (ContainerScans.scan lower zero state.monitor top stats).1 with
    | none =>
      rw [found] at said
      exact .inl ⟨said, still, trivial⟩
    | some alert =>
      rw [found, Option.filter_some] at said
      by_cases critical : alert.severity = .critical
      · rw [if_pos (decide_eq_true critical)] at said
        exact .inr ⟨seen exact alert, critical, said, .raised still⟩
      · rw [if_neg (by simpa using critical)] at said
        exact .inl ⟨said, still, critical⟩
  · rw [at_] at alarmed
    cases alarmed

theorem Watched.step (watched : Watched lower threshold zero sessionId state inputs effects)
    (stepped : ScannedSessions.step lower zero exact state input = some (next, effect)) :
    Watched lower threshold zero sessionId next (inputs ++ [input]) (effects ++ [effect]) := by
  cases input with
  | answer answer =>
    simp only [ScannedSessions.step, Option.ite_none_left_eq_some] at stepped
    obtain ⟨unscanned, stepped⟩ := stepped
    obtain ⟨⟨thread, shown⟩, moved, same⟩ := Option.map_eq_some_iff.mp stepped
    cases same
    exact watched.answer (Bool.eq_false_iff.mpr unscanned) moved
  | scan top stats =>
    obtain ⟨⟨thread, shown⟩, moved, same⟩ := Option.map_eq_some_iff.mp stepped
    cases same
    exact watched.scan moved

theorem run_watched (ran : Runs.run (ScannedSessions.step lower zero exact) (spawn threshold sessionId) inputs =
    some (state, effects)) : Watched lower threshold zero sessionId state inputs effects := by
  refine Runs.run_invariant (I := Watched lower threshold zero sessionId) ?_
    (fun watched stepped => watched.step stepped) ran
  refine ⟨rfl, ⟨rfl, rfl, rfl⟩, .inl ⟨⟨?_, ?_⟩, by simp [Plain], trivial⟩⟩
  · rintro ⟨_, _, member, _⟩
    cases member
  · rintro ⟨before, started, many, _⟩
    rw [List.prefix_nil.mp started] at many
    exact absurd (show (10 : Int) ≤ 0 from many) (by decide)

/-- When the thread has returned, the session was terminated for mining exactly if a scan saw
a miner, and for its CPU usage exactly if at some scan the last ten samples had all reached
the threshold; in both cases the alert was sent, and the session stopped before its
termination was reported, with the type and the details of the alert. For any other reason
it is terminated only as failed or completed. -/
theorem terminated_for_alert_iff
    (ran : Runs.run (ScannedSessions.step lower zero exact) (spawn threshold sessionId) inputs = some (state, effects))
    (done : state.thread.pc = .returned) :
    ((∃ message ok, .sent (.terminated sessionId "mining_detected" message) ok ∈ effects) ↔
        Mined lower (scans zero inputs)) ∧
      ((∃ message ok, .sent (.terminated sessionId "anomaly_cpu" message) ok ∈ effects) ↔
        Overused lower threshold (scans zero inputs)) ∧
      ∀ id reason message ok, .sent (.terminated id reason message) ok ∈ effects → Ordinary reason ∨
        ∃ early alert handle sent, alert.severity = .critical ∧ id = sessionId ∧ reason = alert.alertType.text ∧
          message = alert.details ∧ effects =
            early ++ [.sent (.alert sessionId alert) sent, .stopped handle, .sent (.terminated id reason message) ok,
              .unregistered] := by
  rcases (run_watched ran).ended with ⟨verdict, plain, -⟩ | ⟨alert, critical, verdict, alarmed⟩
  · have unsaid : ∀ reason, ¬ Ordinary reason →
        ¬ ∃ message ok, .sent (.terminated sessionId reason message) ok ∈ effects :=
      fun reason special ⟨message, ok, member⟩ => special (plain sessionId reason message ok member)
    exact ⟨iff_of_false (unsaid _ (by simp [Ordinary])) verdict.1,
      iff_of_false (unsaid _ (by simp [Ordinary])) verdict.2,
      fun id reason message ok member => .inl (plain id reason message ok member)⟩
  · rw [done] at alarmed
    cases alarmed with
    | @unlisted handle early ok told plain =>
      have said : ∀ reason, ¬ Ordinary reason → ((∃ message ok', .sent (.terminated sessionId reason message) ok' ∈
          early ++ [.sent (.alert sessionId alert) ok, .stopped handle,
            .sent (.terminated sessionId alert.alertType.text alert.details) told, .unregistered]) ↔
          reason = alert.alertType.text) := by
        intro reason special
        constructor
        · rintro ⟨message, ok', member⟩
          rcases List.mem_append.mp member with before | last
          · exact absurd (plain sessionId reason message ok' before) special
          · simp only [List.mem_cons, Effect.sent.injEq, Message.terminated.injEq, reduceCtorEq, false_and, false_or,
              List.not_mem_nil, or_false] at last
            exact last.1.2.1
        · rintro rfl
          exact ⟨alert.details, told, by simp⟩
      rw [said _ (by simp [Ordinary]), said _ (by simp [Ordinary])]
      refine ⟨(verdict_text verdict).1, (verdict_text verdict).2, fun id reason message ok' member => ?_⟩
      rcases List.mem_append.mp member with before | last
      · exact .inl (plain id reason message ok' before)
      · simp only [List.mem_cons, Effect.sent.injEq, Message.terminated.injEq, reduceCtorEq, false_and, false_or,
          List.not_mem_nil, or_false] at last
        obtain ⟨⟨rfl, rfl, rfl⟩, rfl⟩ := last
        exact .inr ⟨early, alert, handle, ok, critical, rfl, rfl, rfl, rfl⟩

end Runs

/-! ### A miner in the container -/

def minerTop : Ending := .exited 0 "PID                 COMMAND\n4711                xmrig\n".toList

def minedSession : List Input :=
  [.answer (.created .docker), .answer (.handle ⟨49152, "", some "c0ffee", none, "docker"⟩), .answer (.probe none),
    .answer .returned, .answer (.http true), .answer (.monitor true), .answer (.stopEvent false),
    .answer (.heartbeat .goOn), .answer (.alive (some true)), .answer (.scanDue true), .scan minerTop .raised,
    .answer (.http true), .answer .returned, .answer (.http true), .answer .returned]

/-- The first scan sees `xmrig`, and the session is terminated for it. -/
theorem terminated_for_alert_iff_xmrig :
    ∃ state effects, Runs.run (step String.toLower (0 : Int) fun n => n) (spawn 95 "session-1") minedSession =
        some (state, effects) ∧ state.thread.pc = .returned ∧
      ∃ message ok, .sent (.terminated "session-1" "mining_detected" message) ok ∈ effects := by
  have returned : (Runs.run (step String.toLower (0 : Int) fun n => n) (spawn 95 "session-1") minedSession).map
      (fun final => final.1.thread.pc) = some .returned := by
    decide +kernel
  obtain ⟨⟨state, effects⟩, ran, done⟩ := Option.map_eq_some_iff.mp returned
  refine ⟨state, effects, ran, done, (terminated_for_alert_iff ran done).1.mpr ?_⟩
  have miner : NamesMiner String.toLower (getContainerProcesses minerTop) := by
    decide +kernel
  exact ⟨_, _, List.mem_cons_self, miner⟩

end ComputeCloudNode.ScannedSessions
