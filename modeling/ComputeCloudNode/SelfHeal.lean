import ComputeCloudNode.SessionReports

/-! The self-heal ladder on its own. It holds one container at a time and stops it before
it starts the next, reads the logs only of the one that it holds, and reports once, when
it gives up. -/
namespace ComputeCloudNode.WorkbenchSession
open Traces

variable {executor : Executor} {sessionId : String} {heal heal' : Heal} {answer : Answer} {answers : List Answer}
  {effect : Effect} {effects : List Effect} {first : SessionHandle}

/-- The ladder when it is called with the handle of a session. -/
def ladder (first : SessionHandle) : Heal := { pc := .probe first 0 }

/-! ### Containers -/

/-- What was started and what was stopped, in order, from the start of the first container. -/
def containers (first : SessionHandle) (effects : List Effect) : List Effect :=
  (.started first :: effects).filter fun effect => !effect.idle

/-- One container after the other is started and stopped. -/
def lifetimes (handles : List SessionHandle) : List Effect :=
  handles.flatMap fun handle => [.started handle, .stopped handle]

theorem lifetimes_snoc (handles : List SessionHandle) (handle : SessionHandle) :
    lifetimes (handles ++ [handle]) = lifetimes handles ++ [.started handle] ++ [.stopped handle] := by
  rw [lifetimes, List.flatMap_append, lifetimes, List.append_assoc]
  rfl

/-- The container that is held was started last and is not stopped. -/
def held : Option SessionHandle → List Effect
  | none => []
  | some handle => [.started handle]

theorem containers_snoc : containers first (effects ++ [effect]) =
    containers first effects ++ if effect.idle then [] else [effect] := by
  rw [containers, ← List.cons_append, List.filter_append, containers]
  cases effect <;> rfl

/-- Containers come one after the other, and the last one is the one that is held. -/
def OneByOne (owed : Option SessionHandle) (trace : List Effect) : Prop :=
  ∃ before, trace = lifetimes before ++ held owed

theorem Balanced.oneByOne {owed owed' : Option SessionHandle} (balanced : Balanced owed effect owed')
    (so_far : OneByOne owed (containers first effects)) : OneByOne owed' (containers first (effects ++ [effect])) := by
  obtain ⟨before, split⟩ := so_far
  rw [OneByOne, containers_snoc, split]
  cases balanced with
  | started handle =>
    refine ⟨before, ?_⟩
    change lifetimes before ++ [] ++ [.started handle] = lifetimes before ++ [.started handle]
    rw [List.append_nil]
  | stopped handle =>
    refine ⟨before ++ [handle], ?_⟩
    change lifetimes before ++ [.started handle] ++ [.stopped handle] = lifetimes (before ++ [handle]) ++ []
    rw [lifetimes_snoc, List.append_nil]
  | kept idle => exact ⟨before, by rw [if_pos idle, List.append_nil]⟩

/-! ### Runs -/

/-- The logs that are read are those of a container that was not stopped. -/
def ReadsRunning (before : List Effect) (effect : Effect) : Prop :=
  ∀ handle, effect = .logsRead handle → Unstopped handle before

/-- The ladder reads the logs of the container that it holds. -/
theorem HealMove.reads {handle : SessionHandle} (moved : HealMove executor sessionId heal answer heal' (.logsRead handle)) :
    heal.pc.owed = some handle := by
  cases moved with
  | @captured rung captured logs tail answer effect read =>
    rcases captureLogs_effect read with same | same
    · cases same
    · cases same
      rfl

/-- What holds whenever the ladder waits for an answer. -/
structure LadderInv (sessionId : String) (first : SessionHandle) (heal : Heal) (effects : List Effect) : Prop where
  owed : ∀ handle, Unstopped handle (.started first :: effects) ↔ heal.pc.owed = some handle
  oneByOne : OneByOne heal.pc.owed (containers first effects)
  reads : Each ReadsRunning (.started first :: effects)
  verified : ∀ handle, heal.pc = .healed handle → Probed handle effects
  silent : heal.pc ≠ .failed → messages effects = []
  reported : heal.pc = .failed →
    ∃ message ok, messages effects = [(.terminated sessionId "failed" message, ok)]

theorem ladder_start (sessionId : String) (first : SessionHandle) : LadderInv sessionId first (ladder first) [] where
  owed handle := by
    have alone := @unstopped_snoc handle [] (.started first)
    rw [List.nil_append] at alone
    rw [alone]
    simp [Unstopped, ladder, HealPc.owed]
  oneByOne := ⟨[], rfl⟩
  reads := by
    have alone := @each_snoc _ ReadsRunning [] (.started first)
    exact alone.mpr ⟨each_nil, fun handle same => by cases same⟩
  verified handle same := by cases same
  silent _ := rfl
  reported same := by cases same

theorem ladder_step (inv : LadderInv sessionId first heal effects)
    (stepped : healStep executor sessionId heal answer = some (heal', effect)) :
    LadderInv sessionId first heal' (effects ++ [effect]) := by
  have moved := healStep_move stepped
  have goes : heal.pc ≠ .failed := by
    intro failed
    obtain ⟨pc, logs⟩ := heal
    cases failed
    cases answer <;> cases stepped
  have quiet := inv.silent goes
  refine ⟨?_, moved.balanced.oneByOne inv.oneByOne, ?_, ?_, ?_, ?_⟩
  · rw [← List.cons_append]
    exact moved.balanced.unstopped inv.owed
  · rw [← List.cons_append, each_snoc]
    refine ⟨inv.reads, fun handle same => ?_⟩
    subst same
    exact (inv.owed handle).mpr moved.reads
  · intro handle healed
    rw [Probed, since_snoc]
    exact .inl (moved.healed healed)
  · intro going
    rcases moved.message with ⟨_, silent⟩ | ⟨failed, _⟩
    · rw [messages_snoc, quiet, silent]
      rfl
    · exact absurd failed going
  · intro failed
    rcases moved.message with ⟨going, _⟩ | ⟨_, message, ok, sent⟩
    · exact absurd failed going
    · rw [messages_snoc, quiet, sent]
      exact ⟨message, ok, rfl⟩

theorem ladder_invariant
    (ran : Runs.run (healStep executor sessionId) (ladder first) answers = some (heal, effects)) :
    LadderInv sessionId first heal effects :=
  Runs.run_invariant (I := fun heal _ effects => LadderInv sessionId first heal effects) (ladder_start sessionId first)
    (fun inv stepped => ladder_step inv stepped) ran

/-- When the ladder returns a handle, the probe of that handle came back clean, it is the
only container that is left, and nothing was reported. When it returns none, no container
is left and one failure was reported. No logs are read after a container was stopped. -/
theorem heal_leaks_nothing
    (ran : Runs.run (healStep executor sessionId) (ladder first) answers = some (heal, effects)) :
    (∀ handle, heal.pc = .healed handle → Probed handle effects ∧
      (∃ before, containers first effects = lifetimes before ++ [.started handle]) ∧ messages effects = []) ∧
    (heal.pc = .failed → (∃ handles, containers first effects = lifetimes handles) ∧
      ∃ message ok, messages effects = [(.terminated sessionId "failed" message, ok)]) ∧
    Each ReadsRunning (.started first :: effects) := by
  have inv := ladder_invariant ran
  refine ⟨fun handle healed => ⟨inv.verified handle healed, ?_, inv.silent ?_⟩, fun failed => ⟨?_, inv.reported failed⟩,
    inv.reads⟩
  · have oneByOne := inv.oneByOne
    rwa [healed] at oneByOne
  · rw [healed]
    intro same
    cases same
  · obtain ⟨handles, split⟩ := inv.oneByOne
    rw [failed] at split
    exact ⟨handles, split.trans (List.append_nil _)⟩

def firstContainer : SessionHandle := { hostPort := 40001, authToken := "tok", containerId := some "c1" }

def secondContainer : SessionHandle := { hostPort := 40002, authToken := "tok", containerId := some "c2" }

/-- Nothing answers, until the container is restarted. -/
def healsByRestart : List Answer :=
  [.probe (some "timed out"), .probe (some "timed out"), .probe (some "timed out"), .logs "sshd: boom", .returned,
    .handle secondContainer, .probe none]

theorem heal_leaks_nothing_restarted :
    ∃ heal effects, Runs.run (healStep .docker "s1") (ladder firstContainer) healsByRestart = some (heal, effects) ∧
      heal.pc = .healed secondContainer ∧ Probed secondContainer effects ∧
      (∃ before, containers firstContainer effects = lifetimes before ++ [.started secondContainer]) ∧
      messages effects = [] :=
  ⟨_, _, rfl, rfl, (@heal_leaks_nothing .docker "s1" _ healsByRestart _ firstContainer rfl).1 secondContainer rfl⟩

/-! ### What the report shows -/

/-- The last log tail that was not empty. -/
def lastTail (answers : List Answer) : Option String :=
  (answers.filterMap fun
    | .logs tail => if tail = "" then none else some tail
    | _ => none).getLast?

/-- The text is part of the message. -/
def Shown (message text : String) : Prop := text.toList <:+: message.toList

/-- The report for a call that raises in the middle of the ladder. -/
def HealPc.failure : HealPc → Answer → Option String
  | .stop .giveUp _, _ => none
  | .stop rung _, .raised text => some (rung.failure text)
  | .pull, .raised text => some (Rung.repull.failure text)
  | .start rung, .raised text => some (rung.failure text)
  | _, _ => none

/-- A call that raises has no log tail to hide. -/
def HidesNothing (heal : Heal) (answer : Answer) : Prop :=
  ∀ message, heal.pc.failure answer = some message → Shown message heal.lastLogs

/-- A report that is about to be sent shows the last log tail. -/
def ReportShows (heal : Heal) : Prop := ∀ message, heal.pc = .report message → Shown message heal.lastLogs

theorem shown_labelled (front label text : String) : Shown (front ++ (label ++ text)) text := by
  rw [Shown, String.toList_append, String.toList_append, ← List.append_assoc]
  exact (List.suffix_append _ _).isInfix

theorem shown_empty (message : String) : Shown message "" := List.nil_infix

theorem exhausted_shows (logs : String) : Shown (exhausted logs) logs := by
  by_cases empty : logs = ""
  · subst empty
    exact shown_empty _
  · have nonempty : (logs != "") = true := bne_iff_ne.mpr empty
    unfold exhausted
    simp only [nonempty, if_true]
    apply shown_labelled

/-- The ladder reports either a call that raised, or that it is exhausted. -/
theorem HealMove.report {message : String} (moved : HealMove executor sessionId heal answer heal' effect)
    (reports : heal'.pc = .report message) : heal'.lastLogs = heal.lastLogs ∧
      (heal.pc.failure answer = some message ∨ heal.pc.failure answer = none ∧ message = exhausted heal.lastLogs) := by
  cases moved with
  | stoppedLast handle logs ended =>
    cases reports
    exact ⟨rfl, .inr ⟨rfl, rfl⟩⟩
  | @stopRaised rung handle logs text more =>
    cases reports
    refine ⟨rfl, .inl ?_⟩
    cases rung with
    | giveUp => exact absurd rfl more
    | restart | repull => rfl
  | pullRaised logs text | startRaised rung logs text =>
    cases reports
    exact ⟨rfl, .inl rfl⟩
  | @captured rung handle =>
    obtain ⟨next, same | same⟩ := afterCapture_cases executor handle rung <;> cases same.symm.trans reports
  | _ => cases reports

/-- A call that raises in the middle of the ladder is reported next. -/
theorem HealMove.raises {message : String} (moved : HealMove executor sessionId heal answer heal' effect)
    (failed : heal.pc.failure answer = some message) : heal'.pc = .report message ∧ heal'.lastLogs = heal.lastLogs := by
  cases moved with
  | @stopRaised rung handle logs text more =>
    cases rung with
    | giveUp => exact absurd rfl more
    | restart | repull =>
      cases failed
      exact ⟨rfl, rfl⟩
  | pullRaised | startRaised =>
    cases failed
    exact ⟨rfl, rfl⟩
  | _ => cases failed

theorem always_shows_iff : Runs.Always (healStep executor sessionId) ReportShows (ladder first) answers ↔
    Runs.Meets (healStep executor sessionId) HidesNothing (ladder first) answers := by
  apply Runs.always_iff_meets
  · intro message reports
    cases reports
  · intro before input after output _ hides stepped message reports
    obtain ⟨same, failed | ⟨_, rfl⟩⟩ := (healStep_move stepped).report reports
    · rw [same]
      exact hides message failed
    · rw [same]
      exact exhausted_shows before.lastLogs
  · intro before input after output _ hides stepped shows_
    apply hides
    intro message failed
    obtain ⟨reports, same⟩ := (healStep_move stepped).raises failed
    rw [← same]
    exact shows_ message reports

theorem lastTail_snoc : lastTail (answers ++ [answer]) = (lastTail [answer]).or (lastTail answers) := by
  rw [lastTail, List.filterMap_append, List.getLast?_append, lastTail, lastTail]

theorem captureLogs_lastLogs {handle : SessionHandle} {logs tail : String}
    (read : captureLogs executor handle logs answer = some (tail, effect)) : tail = (lastTail [answer]).getD logs := by
  cases answer with
  | returned | raised =>
    simp only [captureLogs, Option.ite_none_left_eq_some, Option.ite_none_right_eq_some, Option.some.injEq,
      Prod.mk.injEq] at read
    exact read.2.1.symm
  | logs shown =>
    simp only [captureLogs, Option.ite_none_right_eq_some, Option.some.injEq, Prod.mk.injEq] at read
    rw [← read.2.1]
    by_cases empty : shown = ""
    · subst empty
      rfl
    · have nonempty : (shown != "") = true := bne_iff_ne.mpr empty
      have kept : lastTail [.logs shown] = some shown := by
        simp only [lastTail, List.filterMap_cons, if_neg empty, List.filterMap_nil, List.getLast?_singleton]
      rw [kept]
      simp only [nonempty, if_true, Option.getD_some]
  | _ => cases read

theorem HealMove.lastLogs (moved : HealMove executor sessionId heal answer heal' effect) :
    heal'.lastLogs = (lastTail [answer]).getD heal.lastLogs := by
  cases moved with
  | captured rung read => exact captureLogs_lastLogs read
  | stoppedLast handle logs ended =>
    cases answer with
    | returned | raised => rfl
    | _ => cases ended
  | _ => rfl

theorem run_lastLogs
    (ran : Runs.run (healStep executor sessionId) (ladder first) answers = some (heal, effects)) :
    heal.lastLogs = (lastTail answers).getD "" := by
  refine Runs.run_invariant (I := fun heal answers _ => heal.lastLogs = (lastTail answers).getD "") rfl ?_ ran
  intro before answers effects answer after effect held stepped
  rw [(healStep_move stepped).lastLogs, lastTail_snoc, held, Option.getD_or]

theorem HealMove.fails (moved : HealMove executor sessionId heal answer heal' effect) (failed : heal'.pc = .failed) :
    ∃ message ok, heal.pc = .report message ∧ lastTail [answer] = none ∧
      effect = .sent (.terminated sessionId "failed" message) ok := by
  cases moved with
  | reported message logs ok => exact ⟨message, ok, rfl, rfl, rfl⟩
  | @captured rung handle =>
    obtain ⟨next, same | same⟩ := afterCapture_cases executor handle rung <;> cases same.symm.trans failed
  | _ => cases failed

/-- Once the ladder has something to report it sends that and returns. -/
theorem reported_run {message : String} (reports : heal.pc = .report message)
    (ran : Runs.run (healStep executor sessionId) heal answers = some (heal', effects)) (failed : heal'.pc = .failed) :
    ∃ answer, answers = [answer] := by
  cases answers with
  | nil =>
    cases ran
    rw [reports] at failed
    cases failed
  | cons answer rest =>
    obtain ⟨next, output, later, stepped, ran, _⟩ := Runs.run_cons_iff.mp ran
    obtain ⟨pc, logs⟩ := heal
    cases reports
    cases answer with
    | http ok =>
      cases stepped
      cases rest with
      | nil => exact ⟨_, rfl⟩
      | cons second rest =>
        obtain ⟨_, _, _, stuck, _⟩ := Runs.run_cons_iff.mp ran
        cases second <;> cases stuck
    | _ => cases stepped

/-- The failure that the ladder reports shows the last log tail exactly when no call in the
middle of it raised with a message that hides that tail. -/
theorem failure_shows_logs_iff
    (ran : Runs.run (healStep executor sessionId) (ladder first) answers = some (heal, effects))
    (failed : heal.pc = .failed) :
    (∀ message ok, .sent (.terminated sessionId "failed" message) ok ∈ effects →
        ∀ tail, lastTail answers = some tail → Shown message tail) ↔
      Runs.Meets (healStep executor sessionId) HidesNothing (ladder first) answers := by
  rw [← always_shows_iff]
  rcases List.eq_nil_or_concat answers with rfl | ⟨earlier, last, rfl⟩
  · cases ran
    cases failed
  · rw [List.concat_eq_append] at ran ⊢
    obtain ⟨middle, early, output, before, stepped, rfl⟩ := Runs.run_snoc_iff.mp ran
    obtain ⟨message, ok, reports, untold, rfl⟩ := (healStep_move stepped).fails failed
    have silent : messages early = [] := by
      apply (ladder_invariant before).silent
      rw [reports]
      intro same
      cases same
    have logs : middle.lastLogs = (lastTail (earlier ++ [last])).getD "" := by
      rw [lastTail_snoc, untold, run_lastLogs before]
      rfl
    constructor
    · rintro shows_ first_ after split other shown ran' message' reports'
      obtain ⟨_, _, later, first', rest, _⟩ := Runs.run_append_iff.mp (split ▸ ran)
      rw [ran'] at first'
      cases first'
      obtain ⟨answer, rfl⟩ := reported_run reports' rest failed
      obtain ⟨rfl, _⟩ := List.append_inj' split rfl
      rw [before] at ran'
      cases ran'
      rw [reports] at reports'
      cases reports'
      rw [logs]
      cases tail : lastTail (earlier ++ [last]) with
      | none => exact shown_empty _
      | some tail' => exact shows_ message ok (List.mem_append_right _ List.mem_cons_self) tail' tail
    · intro always message' ok' sent tail last_
      have shows_ : Shown message middle.lastLogs := always earlier [last] rfl middle early before message reports
      rw [logs, last_] at shows_
      rcases List.mem_append.mp sent with old | new
      · have told : (Message.terminated sessionId "failed" message', ok') ∈ messages early :=
          List.mem_filterMap.mpr ⟨_, old, rfl⟩
        rw [silent] at told
        cases told
      · cases List.mem_singleton.mp new
        exact shows_

/-- A call that comes back hides nothing. -/
theorem hidesNothing_of_calm (calm : ∀ text, answer ≠ .raised text) : HidesNothing heal answer := by
  intro message failed
  cases answer with
  | raised text => exact absurd rfl (calm text)
  | _ =>
    obtain ⟨pc, logs⟩ := heal
    cases pc with
    | stop rung handle => cases rung <;> cases failed
    | _ => cases failed

/-- An executor that cannot re-pull an image: its container logs a message and is restarted
to no avail. -/
def restartsInVain : List Answer :=
  [.probe (some "timed out"), .probe (some "timed out"), .probe (some "timed out"), .logs "sshd: boom", .returned,
    .handle secondContainer, .probe (some "timed out"), .logs "", .logs "", .returned, .http true]

theorem failure_shows_logs_in_vain :
    ∃ heal effects, Runs.run (healStep ⟨true, false⟩ "s1") (ladder firstContainer) restartsInVain = some (heal, effects) ∧
      lastTail restartsInVain = some "sshd: boom" ∧
      ∀ message ok, .sent (.terminated "s1" "failed" message) ok ∈ effects →
        ∀ tail, lastTail restartsInVain = some tail → Shown message tail := by
  refine ⟨_, _, rfl, rfl, (@failure_shows_logs_iff ⟨true, false⟩ "s1" _ restartsInVain _ firstContainer rfl rfl).mpr ?_⟩
  intro before answer after split _ _ _ _ _ _
  apply hidesNothing_of_calm
  rintro text rfl
  have raises : .raised text ∈ restartsInVain := split ▸ List.mem_append_right before List.mem_cons_self
  simp [restartsInVain] at raises

/-- A container logs a message, and its image is gone when it is restarted. -/
def restartRaises : List Answer :=
  [.probe (some "timed out"), .probe (some "timed out"), .probe (some "timed out"), .logs "sshd: boom", .returned,
    .raised "no such image", .http true]

theorem raised_restart_hides_logs :
    ∃ heal effects, Runs.run (healStep .docker "s1") (ladder firstContainer) restartRaises = some (heal, effects) ∧
      .sent (.terminated "s1" "failed" "container restart failed: no such image") true ∈ effects ∧
      lastTail restartRaises = some "sshd: boom" ∧
      ¬Shown "container restart failed: no such image" "sshd: boom" := by
  have text : Rung.restart.failure "no such image" = "container restart failed: no such image" := by decide +kernel
  rw [← text]
  refine ⟨_, _, rfl, List.mem_of_getElem? (i := 6) rfl, rfl, ?_⟩
  rw [Shown]
  decide +kernel

end ComputeCloudNode.WorkbenchSession
