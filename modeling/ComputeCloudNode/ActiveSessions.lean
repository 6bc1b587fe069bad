import ComputeCloudNode.NodeSessions

/-! When `_active_sessions` forgets a session. The entry is written before the
ready report and popped on every exit of the heartbeat loop; the handler of a
failed ready report is the one exit that keeps it. -/
namespace ComputeCloudNode
open WorkbenchSession NodeSessions

namespace WorkbenchSession

/-- Program points between the write of the entry and its pop, apart from the
handler of a failed ready report. -/
def Pc.registered : Pc → Bool
  | .ready _ | .launch _ | .loopTop _ | .heartbeat _ | .alive _ | .scanDue _ | .scan _ | .alert _ _
  | .stopCritical _ _ | .pause _ | .stopFinished _ | .unregister => true
  | .report _ _ registered => registered
  | .create | .start | .heal _ | .register _ | .stopUnready _ | .returned => false

def Pc.atReady : Pc → Bool
  | .ready _ => true
  | _ => false

variable {thread thread' : Thread} {pc pc' : Pc} {answer : Answer} {effect : Effect}

/-- What a step does to the entry of its session: write it and go on as
registered, pop it, or leave it and stay registered. -/
def Tracks (pc : Pc) (effect : Effect) (pc' : Pc) : Prop :=
  (∃ handle, effect = .registered handle ∧ pc'.registered) ∨ effect = .unregistered ∨
    ((∀ active id, activeAfter active id effect = active) ∧ (pc.registered → pc'.registered))

theorem Tracks.kept (same : ∀ active id, activeAfter active id effect = active)
    (stays : pc.registered → pc'.registered) : Tracks pc effect pc' := .inr (.inr ⟨same, stays⟩)

/-- The ladder runs before the entry is written and does not touch it. -/
theorem HealMove.unlisted {executor : Executor} {sessionId : String} {heal heal' : Heal}
    (moved : HealMove executor sessionId heal answer heal' effect)
    (active : AList fun _ : String => SessionHandle) (id : String) : activeAfter active id effect = active := by
  cases moved with
  | captured rung read => rcases captureLogs_effect read with rfl | rfl <;> rfl
  | _ => rfl

theorem Move.tracks (moved : Move thread pc answer pc' effect) (accepted : pc.atReady → answer ≠ .http false) :
    Tracks pc effect pc' := by
  cases moved with
  | healing moved => exact .kept moved.unlisted nofun
  | registered handle => exact .inl ⟨handle, rfl, rfl⟩
  | unregistered => exact .inr (.inl rfl)
  | readyFailed => exact absurd rfl (accepted rfl)
  | stoppedUnready | createRaised | started | startedDocker | startRaised | reportedUnlisted =>
    exact .kept (fun _ _ => rfl) nofun
  | _ => exact .kept (fun _ _ => rfl) (fun _ => rfl)

theorem step_tracks (accepted : thread.pc.atReady → answer ≠ .http false)
    (stepped : WorkbenchSession.step thread answer = some (thread', effect)) :
    Tracks thread.pc effect thread'.pc := by
  rcases step_cases stepped with ⟨executor, at_, rfl, rfl, rfl⟩ | ⟨handle, created, at_, rfl, rfl, rfl⟩ |
    ⟨pc, moved, rfl⟩
  · rw [at_]
    exact .kept (fun _ _ => rfl) (fun listed => by cases listed)
  · exact .kept (fun _ _ => rfl) (fun _ => rfl)
  · exact (pcStep_move moved).tracks accepted

end WorkbenchSession

namespace NodeSessions

variable {node node' : Node} {action : Action} {event : Event} {events : List Event} {id : String}
  {actions : List Action}

/-- No ready report fails in this action. -/
def ReadyAccepted (node : Node) : Action → Prop
  | .advance index (.http false) => ∀ thread ∈ node.threads[index]?, thread.pc.atReady = false
  | _ => True

instance : Decidable (ReadyAccepted node action) :=
  match action with
  | .advance _ answer =>
    match answer with
    | .http false => inferInstanceAs (Decidable (∀ thread ∈ _, _ = _))
    | .http true | .created _ | .returned | .raised _ | .handle _ | .probe _ | .logs _ | .monitor _
    | .stopEvent _ | .heartbeat _ | .alive _ | .scanDue _ | .scanned _ => .isTrue trivial
  | .poll _ | .stop | .runReturns => .isTrue trivial

/-- Every listed session has a registered thread. -/
def Tracked (node : Node) : Prop :=
  ∀ id ∈ node.active, ∃ thread ∈ node.threads, thread.sessionId = id ∧ thread.pc.registered

theorem tracked_step (tracked : Tracked node) (accepted : ReadyAccepted node action)
    (stepped : step node action = some (node', event)) : Tracked node' := by
  rcases step_cases stepped with ⟨threads, active, _⟩ | ⟨id, rfl, spawns⟩ | ⟨index, answer, rfl, advances⟩
  · intro id listed
    rw [threads]
    exact tracked id (active ▸ listed)
  · obtain ⟨_, threads, active, _⟩ := spawns
    intro other listed
    obtain ⟨thread, member, named⟩ := tracked other (active ▸ listed)
    exact ⟨thread, threads ▸ List.mem_append_left _ member, named⟩
  · obtain ⟨thread, thread', effect, found, moved, threads, active, _⟩ := advances
    obtain ⟨bound, here⟩ := List.getElem?_eq_some_iff.mp found
    have tracks : Tracks thread.pc effect thread'.pc := by
      refine step_tracks (fun atReady failed => ?_) moved
      subst failed
      have refused := accepted thread found
      rw [atReady] at refused
      cases refused
    have same : thread'.sessionId = thread.sessionId := step_sessionId moved
    have moved_mem : thread' ∈ node'.threads := threads ▸ List.mem_set bound thread'
    -- A session whose thread did not move keeps its witness.
    have others : ∀ other ∈ node.active, (thread.sessionId = other → thread.pc.registered →
        thread'.pc.registered) → ∃ witness ∈ node'.threads, witness.sessionId = other ∧ witness.pc.registered := by
      intro other listed stays
      obtain ⟨witness, member, named, registered⟩ := tracked other listed
      obtain ⟨at_, place⟩ := List.mem_iff_getElem?.mp member
      by_cases moves : index = at_
      · subst moves
        cases found.symm.trans place
        exact ⟨thread', moved_mem, same.trans named, stays named registered⟩
      · refine ⟨witness, ?_, named, registered⟩
        rw [threads]
        exact List.mem_iff_getElem?.mpr ⟨at_, by rw [List.getElem?_set_ne moves, place]⟩
    intro other listed
    rw [active] at listed
    rcases tracks with ⟨handle, rfl, registered⟩ | rfl | ⟨kept, stays⟩
    · by_cases own : thread.sessionId = other
      · exact ⟨thread', moved_mem, same.trans own, registered⟩
      · exact others other ((AList.mem_insert _).mp listed |>.resolve_left (Ne.symm own))
          (fun own' => absurd own' own)
    · obtain ⟨foreign, listed⟩ := AList.mem_erase.mp listed
      exact others other listed (fun own => absurd own.symm foreign)
    · rw [kept] at listed
      exact others other listed (fun _ => stays)

theorem tracked_invariant (ran : Runs.run step {} actions = some (node, events))
    (accepted : Runs.Meets step ReadyAccepted {} actions) : Tracked node :=
  Runs.run_invariant_of_meets (I := fun node _ _ => Tracked node) (fun _ listed => by cases listed)
    (fun tracked accepted stepped => tracked_step tracked accepted stepped) accepted ran

/-- On a node whose ready reports all succeed, a session all of whose threads have
returned is not listed, and a response that names it is not ignored. -/
theorem returned_session_unlisted (ran : Runs.run step {} actions = some (node, events))
    (accepted : Runs.Meets step ReadyAccepted {} actions) (id : String)
    (returned : ∀ thread ∈ node.threads, thread.sessionId = id → thread.pc = .returned) :
    id ∉ node.active ∧ ∀ node' event, step node (.poll (.session id)) = some (node', event) →
      event = .spawned node.threads.length id := by
  have unlisted : id ∉ node.active := by
    intro listed
    obtain ⟨thread, member, named, registered⟩ := tracked_invariant ran accepted id listed
    rw [returned thread member named] at registered
    cases registered
  refine ⟨unlisted, fun node' event stepped => ?_⟩
  simp only [step, sessionPollOnce, if_neg unlisted, Option.ite_none_left_eq_some,
    Option.some.injEq, Prod.mk.injEq] at stepped
  exact stepped.2.2.symm

/-- The actions of the only thread of a node that is told to run `s1`. -/
def onlySession (answers : List Answer) : List Action :=
  .poll (.session "s1") :: answers.map (.advance 0)

/-- The ready report of a healthy session meets a network error. -/
def readyFails : List Answer :=
  [.created .docker, .handle ⟨40001, "tok", some "c1", none, "docker"⟩, .probe none, .returned,
    .http false, .returned, .http true]

theorem returned_session_unlisted_terminated :
    ∃ (node : Node) (events : List Event),
      Runs.run step {} (onlySession renterTerminates) = some (node, events) ∧ "s1" ∉ node.active ∧
        ∀ node' event, step node (.poll (.session "s1")) = some (node', event) →
          event = .spawned node.threads.length "s1" :=
  ⟨_, _, rfl, @returned_session_unlisted _ _ (onlySession renterTerminates) rfl (by decide) "s1" (by decide)⟩

/-- After a failed ready report the session stays listed and is ignored when the
server assigns it again. -/
theorem failed_ready_keeps_entry :
    ∃ (node : Node) (events : List Event),
      Runs.run step {} (onlySession readyFails) = some (node, events) ∧
        (∀ thread ∈ node.threads, thread.sessionId = "s1" → thread.pc = .returned) ∧
        "s1" ∈ node.active ∧ step node (.poll (.session "s1")) = some (node, .ignored "s1") :=
  ⟨_, _, rfl, by decide, by decide, rfl⟩

end NodeSessions
end ComputeCloudNode
