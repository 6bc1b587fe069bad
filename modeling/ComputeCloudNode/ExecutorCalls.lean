import ComputeCloudNode.Lib.Holdings
import ComputeCloudNode.SessionCleanup

/-! A session thread with an executor that is no longer a parameter: what its three methods
ask of the host, and what they make of the host's answers. The thread itself is the machine
of `WorkbenchSession`, so a run of the two is a run of that machine.

`Accountable` is what an executor has to guarantee for a single call. From it follows, for
every run of a thread, what of the host is left over when the thread has returned. -/
namespace ComputeCloudNode.ExecutorCalls
open WorkbenchSession Holdings

/-- The host is asked to do a `κ`, and lends a `ρ`. The other types are the host's answers
during a call of each method. -/
structure HostExecutor (Start Stop Check κ ρ : Type) where
  optional : Executor
  startSession : Start → List κ × Except String SessionHandle
  stopSession : Stop → SessionHandle → List κ
  isSessionAlive : Check → SessionHandle → List κ × Bool
  ledger : Ledger κ ρ
  /-- What a handle stands for. -/
  resource : SessionHandle → Option ρ

/-- The method that is called at a program point. -/
inductive Site
  | start
  | stop (handle : SessionHandle)
  | check (handle : SessionHandle)
  | other
  deriving DecidableEq

end ComputeCloudNode.ExecutorCalls

namespace ComputeCloudNode.WorkbenchSession
open ExecutorCalls

def HealPc.site : HealPc → Site
  | .start _ => .start
  | .stop _ handle => .stop handle
  | .probe .. | .capture .. | .pull | .recheck .. | .report _ | .healed _ | .failed => .other

def Pc.site : Pc → Site
  | .start => .start
  | .heal ladder => ladder.pc.site
  | .stopUnready handle | .stopCritical handle _ | .stopFinished handle => .stop handle
  | .alive handle => .check handle
  | .create | .register _ | .ready _ | .launch _ | .loopTop _ | .heartbeat _ | .scanDue _ | .scan _ | .alert ..
  | .pause _ | .report .. | .unregister | .returned => .other

end ComputeCloudNode.WorkbenchSession

namespace ComputeCloudNode.ExecutorCalls
open WorkbenchSession Holdings

variable {Start Stop Check κ ρ : Type}

/-- What a thread meets next. -/
inductive Input (Start Stop Check : Type)
  | starts (answers : Start)
  | stops (answers : Stop)
  | checks (answers : Check)
  | other (answer : Answer)

/-- The calls of a method and the answer that the thread gets from it. `stop_session`
raises nothing, and `is_session_alive` neither. -/
def answer (host : HostExecutor Start Stop Check κ ρ) : Site → Input Start Stop Check → Option (Answer × List κ)
  | .start, .starts answers =>
    match host.startSession answers with
    | (calls, .ok handle) => some (.handle handle, calls)
    | (calls, .error text) => some (.raised text, calls)
  | .stop handle, .stops answers => some (.returned, host.stopSession answers handle)
  | .check handle, .checks answers =>
    let (calls, alive) := host.isSessionAlive answers handle
    some (.alive (some alive), calls)
  | .other, .other (.created executor) => if executor = host.optional then some (.created executor, []) else none
  | .other, .other answer => some (answer, [])
  | _, _ => none

/-- One step of a session thread, with what its executor asks of the host. -/
def step (host : HostExecutor Start Stop Check κ ρ) : Runs.Step Thread (Input Start Stop Check) (List κ) :=
  fun thread input => do
    let (answer, calls) ← answer host thread.pc.site input
    let (thread, _) ← WorkbenchSession.step thread answer
    return (thread, calls)

/-- What a call of each method has to guarantee. A start that is not `tidy`, a stop that is
not `obeyed` and a check that is not `orderly` may leave something behind. -/
structure Accountable (host : HostExecutor Start Stop Check κ ρ) (tidy : Start → Prop)
    (obeyed : SessionHandle → Stop → Prop) (orderly : SessionHandle → Check → Prop) : Prop where
  started : ∀ answers calls handle, host.startSession answers = (calls, .ok handle) → tidy answers →
    host.ledger.Settles none calls (host.resource handle) ∧ (host.resource handle).isSome
  failed : ∀ answers calls text, host.startSession answers = (calls, .error text) → tidy answers →
    host.ledger.Settles none calls none
  stopped : ∀ answers handle, obeyed handle answers →
    host.ledger.Settles (host.resource handle) (host.stopSession answers handle) none
  alive : ∀ answers handle, (host.isSessionAlive answers handle).2 = true →
    host.ledger.Settles (host.resource handle) (host.isSessionAlive answers handle).1 (host.resource handle)
  dead : ∀ answers handle, (host.isSessionAlive answers handle).2 = false → orderly handle answers →
    host.ledger.Settles (host.resource handle) (host.isSessionAlive answers handle).1 none

/-- An executor of which every stop is obeyed, and every start and check that is not in order
leaves something behind for good. -/
structure Conclusive (host : HostExecutor Start Stop Check κ ρ) (tidy : Start → Prop)
    (orderly : SessionHandle → Check → Prop) : Prop extends Accountable host tidy (fun _ _ => True) orderly where
  /-- What such a start leaves is given back by nobody. -/
  untidy : ∀ answers, ¬ tidy answers →
    ∃ r, host.ledger.Held r (host.startSession answers).1 ∧ ∀ call, host.ledger.releases call ≠ some r
  abandoned : ∀ answers handle, ¬ orderly handle answers → (host.isSessionAlive answers handle).2 = false ∧
    host.ledger.Settles (host.resource handle) (host.isSessionAlive answers handle).1 (host.resource handle)

/-- This step leaves nothing behind that will not be given back. -/
def Orderly (tidy : Start → Prop) (obeyed : SessionHandle → Stop → Prop) (orderly : SessionHandle → Check → Prop)
    (thread : Thread) : Input Start Stop Check → Prop
  | .starts answers => tidy answers
  | .stops answers =>
    match thread.pc.site with
    | .stop handle => obeyed handle answers
    | .start | .check _ | .other => True
  | .checks answers =>
    match thread.pc.site with
    | .check handle => orderly handle answers
    | .start | .stop _ | .other => True
  | .other _ => True

instance (tidy : Start → Prop) (obeyed : SessionHandle → Stop → Prop) (orderly : SessionHandle → Check → Prop)
    [DecidablePred tidy] [∀ handle, DecidablePred (obeyed handle)] [∀ handle, DecidablePred (orderly handle)]
    (thread : Thread) : ∀ input : Input Start Stop Check, Decidable (Orderly tidy obeyed orderly thread input)
  | .starts answers => inferInstanceAs (Decidable (tidy answers))
  | .stops answers => by
    unfold Orderly
    cases thread.pc.site <;> infer_instance
  | .checks answers => by
    unfold Orderly
    cases thread.pc.site <;> infer_instance
  | .other _ => .isTrue trivial

/-! ### What a step of the thread holds -/

/-- How the handle that is held changes at a program point of each kind. -/
inductive Passes : Site → Answer → Option SessionHandle → Option SessionHandle → Prop
  | started (handle : SessionHandle) : Passes .start (.handle handle) none (some handle)
  | refused (text : String) : Passes .start (.raised text) none none
  | stopped (handle : SessionHandle) (answer : Answer) : Passes (.stop handle) answer (some handle) none
  | checked (handle : SessionHandle) (answer : Answer) : Passes (.check handle) answer (some handle) (some handle)
  | kept (answer : Answer) (owed : Option SessionHandle) : Passes .other answer owed owed

theorem healMove_passes {executor : Executor} {sessionId : String} {heal heal' : Heal} {answer : Answer}
    {effect : Effect} (moved : HealMove executor sessionId heal answer heal' effect) :
    Passes heal.pc.site answer heal.pc.owed heal'.pc.owed := by
  cases moved with
  | captured rung read =>
    rw [afterCapture_owed]
    exact .kept _ _
  | started rung handle => exact .started handle
  | startRaised rung logs text => exact .refused text
  | stoppedLast handle | stoppedToRestart handle | stoppedToPull handle | stopRaised handle => exact .stopped handle _
  | _ => exact .kept _ _

theorem move_passes {thread : Thread} {pc pc' : Pc} {answer : Answer} {effect : Effect}
    (moved : Move thread pc answer pc' effect) (alive : answer.reportsDead = false) :
    Passes pc.site answer pc.owed pc'.owed := by
  cases moved with
  | healing moved =>
    rw [afterHeal_owed]
    exact healMove_passes moved
  | started handle | startedDocker handle => exact .started handle
  | startRaised text => exact .refused text
  | stoppedUnready handle | stoppedCritical handle | stoppedFinished handle => exact .stopped handle _
  | seenAlive handle => exact .checked handle _
  | seenDead handle silent => exact absurd (bne_eq_false_iff_eq.mp alive) silent
  | _ => exact .kept _ _

theorem thread_passes {thread thread' : Thread} {answer : Answer} {effect : Effect}
    (stepped : WorkbenchSession.step thread answer = some (thread', effect)) (alive : answer.reportsDead = false) :
    Passes thread.pc.site answer thread.pc.owed thread'.pc.owed := by
  rcases step_cases stepped with ⟨executor, at_, rfl, rfl, rfl⟩ | ⟨handle, created, at_, rfl, rfl, rfl⟩ |
    ⟨pc, moved, rfl⟩
  · rw [at_]
    exact .kept _ _
  · rw [at_]
    exact .kept _ _
  · exact move_passes (pcStep_move moved) alive

variable {host : HostExecutor Start Stop Check κ ρ} {tidy : Start → Prop} {obeyed : SessionHandle → Stop → Prop}
  {orderly : SessionHandle → Check → Prop} {thread thread' : Thread} {input : Input Start Stop Check}
  {inputs : List (Input Start Stop Check)} {calls : List κ} {outputs : List (List κ)}
  {effects : List Effect} {sessionId : String}

/-- A run with an executor is a run of the thread, in which `stop_session` never raises. -/
theorem step_thread (stepped : step host thread input = some (thread', calls)) :
    ∃ given effect, answer host thread.pc.site input = some (given, calls) ∧
      WorkbenchSession.step thread given = some (thread', effect) := by
  simp only [step, Option.bind_eq_bind, Option.bind_eq_some_iff, Option.pure_def, Option.some.injEq, Prod.exists,
    Prod.mk.injEq] at stepped
  obtain ⟨given, asked, answered, next, effect, moved, rfl, rfl⟩ := stepped
  exact ⟨given, effect, answered, moved⟩

/-- What a call of a method says to the thread and does to the host. -/
theorem answer_cases {site : Site} {given : Answer} (answered : answer host site input = some (given, calls)) :
    (∃ answers handle, site = .start ∧ input = .starts answers ∧ given = .handle handle ∧
      host.startSession answers = (calls, .ok handle)) ∨
    (∃ answers text, site = .start ∧ input = .starts answers ∧ given = .raised text ∧
      host.startSession answers = (calls, .error text)) ∨
    (∃ answers handle, site = .stop handle ∧ input = .stops answers ∧ given = .returned ∧
      calls = host.stopSession answers handle) ∨
    (∃ answers handle, site = .check handle ∧ input = .checks answers ∧
      given = .alive (some (host.isSessionAlive answers handle).2) ∧ calls = (host.isSessionAlive answers handle).1) ∨
    (site = .other ∧ input = .other given ∧ calls = []) := by
  unfold answer at answered
  split at answered
  case h_1 answers =>
    split at answered
    case h_1 handle started =>
      cases answered
      exact .inl ⟨answers, handle, rfl, rfl, rfl, started⟩
    case h_2 text failed =>
      cases answered
      exact .inr (.inl ⟨answers, text, rfl, rfl, rfl, failed⟩)
  case h_2 handle answers =>
    cases answered
    exact .inr (.inr (.inl ⟨answers, handle, rfl, rfl, rfl, rfl⟩))
  case h_3 handle answers =>
    cases answered
    exact .inr (.inr (.inr (.inl ⟨answers, handle, rfl, rfl, rfl, rfl⟩)))
  case h_4 =>
    split at answered
    case isTrue =>
      cases answered
      exact .inr (.inr (.inr (.inr ⟨rfl, rfl, rfl⟩)))
    case isFalse => cases answered
  case h_5 =>
    cases answered
    exact .inr (.inr (.inr (.inr ⟨rfl, rfl, rfl⟩)))
  case h_6 => cases answered

/-! ### One step -/

theorem leaving_pc {pc : Pc} (left : pc.leaving) : pc.site = .other ∧ pc.owed = none := by
  cases pc with
  | report | unregister | returned => exact ⟨rfl, rfl⟩
  | _ => cases left

/-- A session is seen dead at a check, and the thread leaves. -/
theorem thread_dead {given : Answer} {effect : Effect}
    (stepped : WorkbenchSession.step thread given = some (thread', effect)) (dead : given.reportsDead = true) :
    ∃ handle, thread.pc.site = .check handle ∧ thread.pc.owed = some handle ∧ thread'.pc.leaving := by
  obtain ⟨_, _, left⟩ := step_dead dead stepped
  rcases step_cases stepped with ⟨_, _, rfl, _⟩ | ⟨_, _, _, rfl, _⟩ | ⟨pc, moved, rfl⟩
  · cases dead
  · cases dead
  · have move := pcStep_move moved
    generalize thread.pc = pc₀ at move
    cases move with
    | seenDead handle => exact ⟨handle, rfl, rfl, left⟩
    | healing moved =>
      rw [moved.alive] at dead
      cases dead
    | stoppedUnready handle ended | stoppedCritical handle alert ended | stoppedFinished handle ended =>
      rw [Answer.ends_alive ended] at dead
      cases dead
    | seenAlive handle => cases dead
    | _ => cases dead

variable {trace : List κ}

/-- The thread's handle, and nothing else, is still to be given back. -/
structure Balanced (host : HostExecutor Start Stop Check κ ρ) (thread : Thread) (trace : List κ) : Prop where
  owes : host.ledger.Owes trace (thread.pc.owed.bind host.resource)
  stands : ∀ handle, thread.pc.owed = some handle → (host.resource handle).isSome

theorem Balanced.of_owed {owed : Option SessionHandle} (after : thread.pc.owed = owed)
    (owes : host.ledger.Owes trace (owed.bind host.resource))
    (stands : ∀ handle, owed = some handle → (host.resource handle).isSome) : Balanced host thread trace := by
  subst after
  exact ⟨owes, stands⟩

theorem Balanced.step (accountable : Accountable host tidy obeyed orderly) (balanced : Balanced host thread trace)
    (met : Orderly tidy obeyed orderly thread input)
    (stepped : ExecutorCalls.step host thread input = some (thread', calls)) : Balanced host thread' (trace ++ calls) := by
  obtain ⟨owes, stands⟩ := balanced
  obtain ⟨given, effect, answered, moved⟩ := step_thread stepped
  have passes := thread_passes moved
  generalize before : thread.pc.owed = owed at owes stands passes
  generalize after : thread'.pc.owed = owed' at passes
  rcases answer_cases answered with ⟨answers, handle, site, rfl, rfl, started⟩ | ⟨answers, text, site, rfl, rfl, failed⟩ |
    ⟨answers, handle, site, rfl, rfl, rfl⟩ | ⟨answers, handle, site, rfl, rfl, rfl⟩ | ⟨site, rfl, rfl⟩
  · rw [site] at passes
    cases passes rfl
    obtain ⟨settles, some_⟩ := accountable.started answers calls handle started met
    refine .of_owed after (settles trace owes) ?_
    rintro other ⟨⟩
    exact some_
  · rw [site] at passes
    cases passes rfl
    exact .of_owed after (accountable.failed answers calls text failed met trace owes) nofun
  · rw [site] at passes
    cases passes rfl
    have heeded : obeyed handle answers := by
      simpa only [Orderly, site] using met
    exact .of_owed after (accountable.stopped answers handle heeded trace owes) nofun
  · cases alive : (host.isSessionAlive answers handle).2 with
    | true =>
      rw [site, alive] at passes
      cases passes rfl
      exact .of_owed after (accountable.alive answers handle alive trace owes) stands
    | false =>
      have fine : orderly handle answers := by
        simpa only [Orderly, site] using met
      obtain ⟨_, checked, held, left⟩ := thread_dead moved (by rw [alive]; rfl)
      rw [site] at checked
      cases checked
      rw [before] at held
      cases held
      exact .of_owed (leaving_pc left).2 (accountable.dead answers handle alive fine trace owes) nofun
  · have living : given.reportsDead = false := by
      by_contra dead
      obtain ⟨handle, checked, _⟩ := thread_dead moved (Bool.of_not_eq_false dead)
      rw [site] at checked
      cases checked
    rw [site] at passes
    cases passes living
    rw [List.append_nil]
    exact .of_owed after owes stands

/-- Something is held that the thread will not give back: no call does so, or it has left. -/
def Stranded (host : HostExecutor Start Stop Check κ ρ) (thread : Thread) (trace : List κ) : Prop :=
  (∃ r, host.ledger.Held r trace ∧ ∀ call, host.ledger.releases call ≠ some r) ∨
    thread.pc.leaving ∧ ∃ r, host.ledger.Held r trace

theorem Balanced.stranded (conclusive : Conclusive host tidy orderly) (balanced : Balanced host thread trace)
    (unmet : ¬ Orderly tidy (fun _ _ => True) orderly thread input)
    (stepped : ExecutorCalls.step host thread input = some (thread', calls)) : Stranded host thread' (trace ++ calls) := by
  obtain ⟨given, effect, answered, moved⟩ := step_thread stepped
  rcases answer_cases answered with ⟨answers, handle, site, rfl, rfl, started⟩ | ⟨answers, text, site, rfl, rfl, failed⟩ |
    ⟨answers, handle, site, rfl, rfl, rfl⟩ | ⟨answers, handle, site, rfl, rfl, rfl⟩ | ⟨site, rfl, rfl⟩
  · obtain ⟨r, held, kept⟩ := conclusive.untidy answers unmet
    rw [started] at held
    exact .inl ⟨r, held.prepend trace, kept⟩
  · obtain ⟨r, held, kept⟩ := conclusive.untidy answers unmet
    rw [failed] at held
    exact .inl ⟨r, held.prepend trace, kept⟩
  · rw [Orderly, site] at unmet
    exact absurd trivial unmet
  · have disorderly : ¬ orderly handle answers := by
      simpa only [Orderly, site] using unmet
    obtain ⟨dead, settles⟩ := conclusive.abandoned answers handle disorderly
    obtain ⟨held, checked, owed, left⟩ := thread_dead moved (by rw [dead]; rfl)
    rw [site] at checked
    cases checked
    obtain ⟨owes, stands⟩ := balanced
    obtain ⟨r, resource⟩ := Option.isSome_iff_exists.mp (stands handle owed)
    rw [owed] at owes
    exact .inr ⟨left, r, (settles trace owes r).mpr resource⟩
  · exact absurd trivial unmet

theorem Stranded.step (stranded : Stranded host thread trace)
    (stepped : ExecutorCalls.step host thread input = some (thread', calls)) :
    Stranded host thread' (trace ++ calls) := by
  rcases stranded with ⟨r, held, kept⟩ | ⟨left, r, held⟩
  · exact .inl ⟨r, held.append fun call _ => kept call, kept⟩
  · obtain ⟨given, effect, answered, moved⟩ := step_thread stepped
    rw [(leaving_pc left).1] at answered
    have quiet : calls = [] := by
      rcases answer_cases answered with ⟨_, _, site, _⟩ | ⟨_, _, site, _⟩ | ⟨_, _, site, _⟩ | ⟨_, _, site, _⟩ | ⟨_, _, rfl⟩
      · cases site
      · cases site
      · cases site
      · cases site
      · rfl
    rw [quiet, List.append_nil]
    exact .inr ⟨(step_leaving left moved).2.1, r, held⟩

/-! ### All runs -/

theorem run_balanced (accountable : Accountable host tidy obeyed orderly)
    (met : Runs.Meets (step host) (Orderly tidy obeyed orderly) (spawn sessionId) inputs)
    (ran : Runs.run (step host) (spawn sessionId) inputs = some (thread, outputs)) :
    Balanced host thread outputs.flatten := by
  refine Runs.run_invariant_of_meets (I := fun thread _ outputs => Balanced host thread outputs.flatten) ?_ ?_ met ran
  · exact ⟨Ledger.owes_nil, nofun⟩
  · intro thread inputs outputs input thread' calls balanced met stepped
    rw [List.flatten_append, List.flatten_singleton]
    exact balanced.step accountable met stepped

theorem run_stranded (conclusive : Conclusive host tidy orderly)
    (unmet : ¬ Runs.Meets (step host) (Orderly tidy (fun _ _ => True) orderly) (spawn sessionId) inputs)
    (ran : Runs.run (step host) (spawn sessionId) inputs = some (thread, outputs)) :
    Stranded host thread outputs.flatten := by
  induction inputs using List.reverseRecOn generalizing thread outputs with
  | nil => exact absurd Runs.meets_nil unmet
  | append_singleton inputs input ih =>
    obtain ⟨middle, early, calls, before, stepped, rfl⟩ := Runs.run_snoc_iff.mp ran
    rw [Runs.meets_snoc_iff before stepped] at unmet
    rw [List.flatten_append, List.flatten_singleton]
    by_cases met : Runs.Meets (step host) (Orderly tidy (fun _ _ => True) orderly) (spawn sessionId) inputs
    · have balanced := run_balanced conclusive.toAccountable met before
      exact balanced.stranded conclusive (fun last => unmet ⟨met, last⟩) stepped
    · exact (ih met before).step stepped

/-- What the thread has been lent is all given back when it returns, exactly if every step
was orderly. -/
theorem returned_settled_iff (conclusive : Conclusive host tidy orderly)
    (ran : Runs.run (step host) (spawn sessionId) inputs = some (thread, outputs)) (done : thread.pc = .returned) :
    (∀ r, ¬ host.ledger.Held r outputs.flatten) ↔
      Runs.Meets (step host) (Orderly tidy (fun _ _ => True) orderly) (spawn sessionId) inputs := by
  constructor
  · intro settled
    by_contra unmet
    rcases run_stranded conclusive unmet ran with ⟨r, held, _⟩ | ⟨_, r, held⟩
    · exact settled r held
    · exact settled r held
  · intro met r held
    have owes := (run_balanced conclusive.toAccountable met ran).owes
    rw [done] at owes
    exact owes.nothing held

/-- The thread's part of a run, without its executor. -/
theorem run_thread (ran : Runs.run (step host) (spawn sessionId) inputs = some (thread, outputs)) :
    ∃ answers effects, Runs.run WorkbenchSession.step (spawn sessionId) answers = some (thread, effects) := by
  induction inputs using List.reverseRecOn generalizing thread outputs with
  | nil =>
    cases ran
    exact ⟨[], [], rfl⟩
  | append_singleton inputs input ih =>
    obtain ⟨middle, early, calls, before, stepped, rfl⟩ := Runs.run_snoc_iff.mp ran
    obtain ⟨answers, effects, reached⟩ := ih before
    obtain ⟨given, effect, _, moved⟩ := step_thread stepped
    exact ⟨answers ++ [given], effects ++ [effect],
      Runs.run_snoc_iff.mpr ⟨middle, effects, effect, reached, moved, rfl⟩⟩

end ComputeCloudNode.ExecutorCalls
