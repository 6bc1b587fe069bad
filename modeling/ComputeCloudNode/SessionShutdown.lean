import ComputeCloudNode.ActiveSessions
import Mathlib.Data.Set.Basic

/-! Sessions when a node stops. `run` drains the task pool before it returns, but
nothing waits for the session threads: each of them has to see the stop event by
itself, at the top of its loop, before it stops its container. So whether a
container can be left behind is settled when `stop` is called: a thread that is not
past its containers then may be overtaken by `run`. -/
namespace ComputeCloudNode
open WorkbenchSession NodeSessions

namespace WorkbenchSession

variable {thread thread' : Thread} {pc pc' : Pc} {answer : Answer} {effect : Effect}

/-! ### The end of a session thread -/

/-- The ladder gave up after its last `stop_session`. -/
def HealPc.settled : HealPc → Bool
  | .report _ | .failed => true
  | _ => false

/-- Program points past the last container of the thread: it starts no other, and the
one it had was stopped or dropped. -/
def Pc.settled : Pc → Bool
  | .heal ladder => ladder.pc.settled
  | .report .. | .unregister | .returned => true
  | _ => false

theorem Pc.settled_owes_nothing (settled : pc.settled) : pc.owed = none := by
  cases pc with
  | heal ladder =>
    obtain ⟨at_, logs⟩ := ladder
    cases at_ with
    | report | failed => rfl
    | _ => cases settled
  | report | unregister | returned => rfl
  | _ => cases settled

/-- What a settled thread may still do: take its session off the list. -/
structure Settles (pc : Pc) (answer : Answer) (effect : Effect) (pc' : Pc) : Prop where
  alive : answer.reportsDead = false
  settled : pc'.settled
  listed : pc'.registered → pc.registered
  unlists : (∀ active id, activeAfter active id effect = active) ∨ effect = .unregistered ∧ pc.registered

theorem Move.settles (moved : Move thread pc answer pc' effect) (settled : pc.settled) :
    Settles pc answer effect pc' := by
  cases moved with
  | healing healed =>
    cases healed with
    | reported => exact ⟨rfl, rfl, by simp [afterHeal, Pc.registered], .inl fun _ _ => rfl⟩
    | _ => cases settled
  | reportedListed => exact ⟨rfl, rfl, fun _ => rfl, .inl fun _ _ => rfl⟩
  | reportedUnlisted => exact ⟨rfl, rfl, by simp [Pc.registered], .inl fun _ _ => rfl⟩
  | unregistered => exact ⟨rfl, rfl, fun _ => rfl, .inr ⟨rfl, rfl⟩⟩
  | _ => cases settled

theorem step_settles (settled : thread.pc.settled) (stepped : step thread answer = some (thread', effect)) :
    Settles thread.pc answer effect thread'.pc := by
  rcases step_cases stepped with ⟨_, at_, _⟩ | ⟨_, _, at_, _⟩ | ⟨pc, moved, rfl⟩
  · rw [at_] at settled
    cases settled
  · rw [at_] at settled
    cases settled
  · exact (pcStep_move moved).settles settled

/-! ### The continuations of a session thread -/

/-- Answers that do not depend on `_stop_event`, none of which reports a dead session. -/
def Answer.plain : Answer → Bool
  | .stopEvent _ | .alive _ => false
  | _ => true

theorem Answer.plain_alive (plain : answer.plain) : answer.reportsDead = false := by
  cases answer with
  | alive => cases plain
  | _ => rfl

/-- From every other point the thread can come to hold a container. -/
theorem unsettled_holds (unsettled : thread.pc.settled = false) : ∃ answers thread' effects handle,
    Runs.run step thread answers = some (thread', effects) ∧ (∀ answer ∈ answers, answer.plain) ∧
      thread'.pc.owed = some handle := by
  obtain ⟨id, executor, monitored, pc⟩ := thread
  let handle : SessionHandle := ⟨0, "", none, none, "native"⟩
  cases pc with
  | create => exact ⟨[.created .native, .handle handle], _, _, handle, rfl, by decide, rfl⟩
  | start => exact ⟨[.handle handle], _, _, handle, rfl, by decide, rfl⟩
  | heal ladder =>
    obtain ⟨at_, logs⟩ := ladder
    cases at_ with
    | pull => exact ⟨[.returned, .handle handle], _, _, handle, rfl, by decide, rfl⟩
    | start => exact ⟨[.handle handle], _, _, handle, rfl, by decide, rfl⟩
    | report | failed => cases unsettled
    | _ => exact ⟨[], _, _, _, rfl, by decide, rfl⟩
  | report | unregister | returned => cases unsettled
  | _ => exact ⟨[], _, _, _, rfl, by decide, rfl⟩

/-- A settled thread whose session is listed can take it off the list. -/
theorem settled_unregisters (settled : thread.pc.settled) (listed : thread.pc.registered) :
    ∃ answers thread' effects, Runs.run step thread answers = some (thread', effects ++ [.unregistered]) ∧
      (∀ answer ∈ answers, answer.plain) := by
  obtain ⟨id, executor, monitored, pc⟩ := thread
  cases pc with
  | report reason message registered =>
    cases registered with
    | true => exact ⟨[.http true, .returned], _, [_], rfl, by decide⟩
    | false => cases listed
  | unregister => exact ⟨[.returned], _, [], rfl, by decide⟩
  | heal | returned => cases listed
  | _ => cases settled

end WorkbenchSession

namespace NodeSessions

variable {node node' : Node} {action : Action} {event : Event} {events : List Event} {actions : List Action}
  {index : Nat} {answer : Answer} {handle : SessionHandle} {thread thread' : Thread} {effect : Effect}

/-! ### What each session thread did -/

/-- The effect of the thread at an index in an event. -/
def effectsOf (index : Nat) : Event → List Effect
  | .effect other _ effect => if other = index then [effect] else []
  | _ => []

/-- What the session thread at an index has done. -/
def threadEffects (index : Nat) (events : List Event) : List Effect := events.flatMap (effectsOf index)

/-- The answer an action gives to the thread at an index. -/
def answersOf (index : Nat) : Action → List Answer
  | .advance other answer => if other = index then [answer] else []
  | _ => []

/-- What the session thread at an index was answered. -/
def threadAnswers (index : Nat) (actions : List Action) : List Answer := actions.flatMap (answersOf index)

theorem threadEffects_snoc (index : Nat) (events : List Event) (event : Event) :
    threadEffects index (events ++ [event]) = threadEffects index events ++ effectsOf index event := by
  rw [threadEffects, List.flatMap_append, List.flatMap_singleton, threadEffects]

theorem threadAnswers_snoc (index : Nat) (actions : List Action) (action : Action) :
    threadAnswers index (actions ++ [action]) = threadAnswers index actions ++ answersOf index action := by
  rw [threadAnswers, List.flatMap_append, List.flatMap_singleton, threadAnswers]

theorem mem_threadAnswers : answer ∈ threadAnswers index actions ↔ .advance index answer ∈ actions := by
  simp only [threadAnswers, List.mem_flatMap]
  constructor
  · rintro ⟨action, member, here⟩
    cases action with
    | advance other given =>
      rw [answersOf] at here
      split at here
      next same =>
        rw [List.mem_singleton.mp here, ← same]
        exact member
      next => cases here
    | _ => cases here
  · intro member
    exact ⟨_, member, by simp [answersOf]⟩

theorem step_advance (stepped : step node (.advance index answer) = some (node', event)) :
    node'.runReturned = node.runReturned ∧ node'.stopRequested = node.stopRequested ∧
      Advances index answer node node' event := by
  simp only [step] at stepped
  cases found : node.threads[index]? with
  | none =>
    rw [found] at stepped
    cases stepped
  | some thread =>
    simp only [found, Option.ite_none_right_eq_some, Option.map_eq_some_iff, Prod.exists, Prod.mk.injEq] at stepped
    obtain ⟨_, thread', effect, moved, rfl, rfl⟩ := stepped
    exact ⟨rfl, rfl, thread, thread', effect, found, moved, rfl, rfl, rfl⟩

/-- What the node shows of its thread at an index is a run of the session thread. -/
structure Traced (index : Nat) (node : Node) (actions : List Action) (events : List Event) : Prop where
  fresh : node.threads[index]? = none → threadAnswers index actions = [] ∧ threadEffects index events = []
  ran : ∀ thread, node.threads[index]? = some thread →
    Runs.run WorkbenchSession.step (spawn thread.sessionId) (threadAnswers index actions) =
      some (thread, threadEffects index events)

/-- A step that does not move the thread. -/
theorem traced_kept (traced : Traced index node actions events) (same : node'.threads[index]? = node.threads[index]?)
    (unasked : answersOf index action = []) (silent : effectsOf index event = []) :
    Traced index node' (actions ++ [action]) (events ++ [event]) := by
  constructor
  · rw [threadAnswers_snoc, threadEffects_snoc, unasked, silent, List.append_nil, List.append_nil, same]
    exact traced.fresh
  · rw [threadAnswers_snoc, threadEffects_snoc, unasked, silent, List.append_nil, List.append_nil, same]
    exact traced.ran

theorem traced_step (traced : Traced index node actions events) (stepped : step node action = some (node', event)) :
    Traced index node' (actions ++ [action]) (events ++ [event]) := by
  rcases step_cases stepped with ⟨threads, _, shown⟩ | ⟨id, rfl, _, threads, _, rfl⟩ | ⟨other, answer, rfl, advances⟩
  · have unasked : answersOf index action = [] := by
      cases action with
      | advance other answer =>
        obtain ⟨_, _, _, _, _, _, _, _, _, rfl⟩ := step_advance stepped
        rcases shown with same | ⟨id, same⟩ <;> cases same
      | _ => rfl
    refine traced_kept traced (by rw [threads]) unasked ?_
    rcases shown with rfl | ⟨id, rfl⟩ <;> rfl
  · rcases lt_trichotomy index node.threads.length with inside | rfl | outside
    · refine traced_kept traced ?_ rfl rfl
      rw [threads, List.getElem?_append_left inside]
    · obtain ⟨unasked, silent⟩ := traced.fresh (List.getElem?_eq_none (le_refl _))
      constructor
      · rw [threads, List.getElem?_concat_length]
        exact fun missing => by cases missing
      · intro thread found
        rw [threads, List.getElem?_concat_length] at found
        cases found
        rw [threadAnswers_snoc, threadEffects_snoc, unasked, silent]
        rfl
    · refine traced_kept traced ?_ rfl rfl
      rw [threads, List.getElem?_eq_none (le_of_lt outside), List.getElem?_eq_none]
      rw [List.length_append, List.length_singleton]
      omega
  · obtain ⟨thread, thread', effect, found, moved, threads, _, rfl⟩ := advances
    by_cases here : other = index
    · subst here
      obtain ⟨bound, _⟩ := List.getElem?_eq_some_iff.mp found
      constructor
      · rw [threads, List.getElem?_set_self bound]
        exact fun missing => by cases missing
      · intro final reached
        rw [threads, List.getElem?_set_self bound] at reached
        cases reached
        rw [threadAnswers_snoc, threadEffects_snoc, answersOf, effectsOf, if_pos rfl, if_pos rfl]
        apply Runs.run_snoc_iff.mpr
        refine ⟨thread, _, effect, ?_, moved, rfl⟩
        rw [step_sessionId moved]
        exact traced.ran thread found
    · refine traced_kept traced ?_ (by rw [answersOf, if_neg here]) (by rw [effectsOf, if_neg here])
      rw [threads, List.getElem?_set_ne here]

theorem run_traced (ran : Runs.run step {} actions = some (node, events)) (index : Nat) :
    Traced index node actions events := by
  refine Runs.run_invariant (I := fun node actions events => Traced index node actions events) ?_ ?_ ran
  · exact ⟨fun _ => ⟨rfl, rfl⟩, fun thread found => by cases found⟩
  · exact fun traced stepped => traced_step traced stepped

/-! ### Containers left behind -/

/-- A session is seen dead in this step. -/
def Action.reportsDead : Action → Bool
  | .advance _ answer => answer.reportsDead
  | _ => false

/-- No liveness check failed. -/
def AllAlive (actions : List Action) : Prop := ∀ action ∈ actions, action.reportsDead = false

instance : Decidable (AllAlive actions) := inferInstanceAs (Decidable (∀ action ∈ actions, _))

/-- `stop_session` was called on every handle that a session thread was given. -/
def AllStopped (events : List Event) : Prop := ∀ index handle, ¬ Unstopped handle (threadEffects index events)

/-- In every state of the run in which `run` has returned, `stop_session` has been
called on every handle that a session thread was given. -/
def StoppedWithNode (actions : List Action) : Prop :=
  ∀ before after, actions = before ++ after → ∀ node events, Runs.run step {} before = some (node, events) →
    node.runReturned = true → AllStopped events

theorem AllAlive.snoc (alive : AllAlive actions) (silent : action.reportsDead = false) :
    AllAlive (actions ++ [action]) := by
  intro other member
  rcases List.mem_append.mp member with old | new
  · exact alive other old
  · rwa [List.mem_singleton.mp new]

theorem AllAlive.before (alive : AllAlive (actions ++ [action])) : AllAlive actions :=
  fun other member => alive other (List.mem_append_left _ member)

theorem AllAlive.answers (alive : AllAlive actions) :
    ∀ answer ∈ threadAnswers index actions, answer.reportsDead = false :=
  fun _ asked => alive _ (mem_threadAnswers.mp asked)

/-- While no liveness check failed, the container a thread holds is not stopped. -/
theorem held_unstopped (ran : Runs.run step {} actions = some (node, events)) (alive : AllAlive actions)
    (found : node.threads[index]? = some thread) (handle : SessionHandle) :
    Unstopped handle (threadEffects index events) ↔ thread.pc.owed = some handle :=
  (cleanup_invariant ((run_traced ran index).ran thread found)).alive alive.answers handle

/-- A failed liveness check leaves a container for good. -/
theorem dead_leaves (ran : Runs.run step {} actions = some (node, events)) (dead : ¬ AllAlive actions) :
    ¬ AllStopped events := by
  intro stopped
  apply dead
  intro action member
  apply Bool.eq_false_iff.mpr
  intro failed
  cases action with
  | advance index answer =>
    have asked : answer ∈ threadAnswers index actions := mem_threadAnswers.mpr member
    cases found : node.threads[index]? with
    | none =>
      rw [((run_traced ran index).fresh found).1] at asked
      cases asked
    | some thread =>
      have inv := cleanup_invariant ((run_traced ran index).ran thread found)
      obtain ⟨_, handle, unstopped⟩ := inv.dead ⟨answer, asked, failed⟩
      exact stopped index handle unstopped
  | _ => cases failed

/-- Every session thread is past its containers. -/
def Settled (node : Node) : Prop := ∀ thread ∈ node.threads, thread.pc.settled

instance : Decidable (Settled node) := inferInstanceAs (Decidable (∀ thread ∈ node.threads, _))

/-- The session stays listed, whatever the threads do. -/
def StaysListed (node : Node) (id : String) : Prop :=
  id ∈ node.active ∧ ∀ thread ∈ node.threads, thread.sessionId = id → thread.pc.registered = false

instance (id : String) : Decidable (StaysListed node id) :=
  inferInstanceAs (Decidable (_ ∧ ∀ thread ∈ node.threads, _ → _))

/-- The polls bring only sessions of `pulls`. -/
def Brings (pulls : Set String) (actions : List Action) : Prop := ∀ id, .poll (.session id) ∈ actions → id ∈ pulls

theorem settled_stopped (ran : Runs.run step {} actions = some (node, events)) (alive : AllAlive actions)
    (settled : Settled node) : AllStopped events := by
  intro index handle unstopped
  cases found : node.threads[index]? with
  | none =>
    rw [((run_traced ran index).fresh found).2] at unstopped
    exact Traces.not_since_nil unstopped
  | some thread =>
    have owes := (held_unstopped ran alive found handle).mp unstopped
    rw [Pc.settled_owes_nothing (settled thread (List.mem_of_getElem? found))] at owes
    cases owes

/-! ### Why no container is left behind -/

/-- From here on no thread starts a container: those there are settled, and no poll
spawns another. -/
structure Closed (pulls : Set String) (node : Node) : Prop where
  settled : Settled node
  spawnless : node.runReturned = true ∨ ∀ id ∈ pulls, StaysListed node id

variable {pulls : Set String}

/-- A settled thread takes no session off the list but its own. -/
theorem StaysListed.advanced {id : String} (stays : StaysListed node id) (settled : Settled node)
    (advances : Advances index answer node node' event) : StaysListed node' id := by
  obtain ⟨thread, thread', effect, found, moved, threads, active, _⟩ := advances
  have member := List.mem_of_getElem? found
  have settles := step_settles (settled thread member) moved
  constructor
  · rw [active]
    rcases settles.unlists with kept | ⟨rfl, listed⟩
    · rw [kept]
      exact stays.1
    · refine AList.mem_erase.mpr ⟨?_, stays.1⟩
      rintro rfl
      rw [stays.2 thread member rfl] at listed
      cases listed
  · intro other among named
    rw [threads] at among
    rcases List.mem_or_eq_of_mem_set among with old | rfl
    · exact stays.2 other old named
    · rw [step_sessionId moved] at named
      apply Bool.eq_false_iff.mpr
      intro listed
      have before := settles.listed listed
      rw [stays.2 thread member named] at before
      cases before

theorem closed_step (closed : Closed pulls node) (brought : ∀ id, action = .poll (.session id) → id ∈ pulls)
    (stepped : step node action = some (node', event)) : Closed pulls node' ∧ action.reportsDead = false := by
  obtain ⟨settled, spawnless⟩ := closed
  cases action with
  | poll answer =>
    simp only [step, Option.ite_none_left_eq_some, Option.some.injEq] at stepped
    obtain ⟨running, stepped⟩ := stepped
    cases answer with
    | session id =>
      have stays := spawnless.resolve_left running id (brought id rfl)
      rw [sessionPollOnce, if_pos stays.1] at stepped
      cases stepped
      exact ⟨⟨settled, spawnless⟩, rfl⟩
    | malformed =>
      cases stepped
      exact ⟨⟨settled, .inl rfl⟩, rfl⟩
    | _ =>
      cases stepped
      exact ⟨⟨settled, spawnless⟩, rfl⟩
  | advance index answer =>
    obtain ⟨returned, _, advances⟩ := step_advance stepped
    have listed := fun id (stays : StaysListed node id) => stays.advanced settled advances
    obtain ⟨thread, thread', effect, found, moved, threads, _, _⟩ := advances
    have settles := step_settles (settled thread (List.mem_of_getElem? found)) moved
    refine ⟨⟨fun other among => ?_, ?_⟩, settles.alive⟩
    · rw [threads] at among
      rcases List.mem_or_eq_of_mem_set among with old | rfl
      · exact settled other old
      · exact settles.settled
    · rw [returned]
      exact spawnless.imp_right fun stays id pulled => listed id (stays id pulled)
  | stop =>
    cases stepped
    exact ⟨⟨settled, spawnless⟩, rfl⟩
  | runReturns =>
    simp only [step, Option.ite_none_right_eq_some, Option.some.injEq, Prod.mk.injEq] at stepped
    obtain ⟨_, rfl, _⟩ := stepped
    exact ⟨⟨settled, .inl rfl⟩, rfl⟩

theorem Brings.before {late : List Action} (brings : Brings pulls (actions ++ late)) : Brings pulls actions :=
  fun id member => brings id (List.mem_append_left late member)

/-- A node that is closed after `before` leaves no container behind. -/
theorem closed_stopped {before late : List Action} (ran : Runs.run step {} before = some (node, events))
    (alive : AllAlive before) (closed : Closed pulls node) (brings : Brings pulls late)
    {final : Node} {shown : List Event}
    (reached : Runs.run step {} (before ++ late) = some (final, shown)) : AllStopped shown := by
  obtain ⟨middle, early, rest, ran', later, rfl⟩ := Runs.run_append_iff.mp reached
  cases ran.symm.trans ran'
  have kept : Brings pulls late → Closed pulls final ∧ AllAlive late := by
    refine Runs.run_invariant (I := fun node actions _ => Brings pulls actions → Closed pulls node ∧ AllAlive actions)
      ?_ ?_ later
    · exact fun _ => ⟨closed, fun _ member => by cases member⟩
    · intro node actions events action node' event held stepped brings
      obtain ⟨closed, alive⟩ := held brings.before
      obtain ⟨closed', silent⟩ := closed_step closed (fun id same => brings id (by simp [same])) stepped
      refine ⟨closed', fun other member => ?_⟩
      rcases List.mem_append.mp member with old | new
      · exact alive other old
      · rw [List.mem_singleton.mp new]
        exact silent
  obtain ⟨closed', aliveLate⟩ := kept brings
  refine settled_stopped reached (fun action member => ?_) closed'.settled
  exact (List.mem_append.mp member).elim (alive action) (aliveLate action)

/-! ### How a container is left behind -/

/-- Plain answers of a thread can be given to it on the node. -/
theorem run_advances {answers : List Answer} {effects : List Effect} (found : node.threads[index]? = some thread)
    (ran : Runs.run WorkbenchSession.step thread answers = some (thread', effects))
    (plain : ∀ answer ∈ answers, answer.plain) :
    ∃ node' events, Runs.run step node (answers.map (.advance index)) = some (node', events) ∧
      node'.threads[index]? = some thread' ∧ node'.runReturned = node.runReturned ∧
      node'.active = effects.foldl (fun active effect => activeAfter active thread.sessionId effect) node.active := by
  induction answers generalizing node thread effects with
  | nil =>
    cases ran
    exact ⟨node, [], rfl, found, rfl, rfl⟩
  | cons answer answers ih =>
    obtain ⟨next, effect, rest, moved, later, rfl⟩ := Runs.run_cons_iff.mp ran
    obtain ⟨bound, _⟩ := List.getElem?_eq_some_iff.mp found
    have heard : consistent node answer := by
      cases answer with
      | stopEvent => cases plain _ List.mem_cons_self
      | _ => rfl
    let after : Node :=
      { node with
        threads := node.threads.set index next
        active := activeAfter node.active thread.sessionId effect }
    have stepped : step node (.advance index answer) = some (after, .effect index thread.sessionId effect) := by
      simp only [step, found, heard, if_true, moved, Option.map_some]
      rfl
    obtain ⟨node', events, ran', reached, returned, active⟩ :=
      ih (show after.threads[index]? = some next from List.getElem?_set_self bound) later
        fun other member => plain other (List.mem_cons_of_mem _ member)
    refine ⟨node', _ :: events, Runs.run_cons_iff.mpr ⟨after, _, events, stepped, ran', rfl⟩, reached, returned, ?_⟩
    rw [active, step_sessionId moved, List.foldl_cons]

/-- The run can go on so that a thread is given a container that was not stopped. -/
def CanLeave (pulls : Set String) (before : List Action) : Prop :=
  ∃ late node events, Brings pulls late ∧ Runs.run step {} (before ++ late) = some (node, events) ∧ ¬ AllStopped events

theorem brings_advances (pulls : Set String) (index : Nat) (answers : List Answer) :
    Brings pulls (answers.map (.advance index)) := by
  intro id member
  obtain ⟨_, _, same⟩ := List.mem_map.mp member
  cases same

theorem AllAlive.advances {answers : List Answer} (alive : AllAlive actions) (index : Nat)
    (plain : ∀ answer ∈ answers, answer.plain) : AllAlive (actions ++ answers.map (.advance index)) := by
  intro action member
  rcases List.mem_append.mp member with old | new
  · exact alive action old
  · obtain ⟨answer, given, rfl⟩ := List.mem_map.mp new
    exact Answer.plain_alive (plain answer given)

theorem dead_leave (ran : Runs.run step {} actions = some (node, events)) (dead : ¬ AllAlive actions) :
    CanLeave pulls actions :=
  ⟨[], node, events, fun _ member => (by cases member), by rwa [List.append_nil], dead_leaves ran dead⟩

theorem unsettled_leave (ran : Runs.run step {} actions = some (node, events)) (alive : AllAlive actions)
    (found : node.threads[index]? = some thread) (unsettled : thread.pc.settled = false) : CanLeave pulls actions := by
  obtain ⟨answers, thread', effects, handle, moved, plain, owes⟩ := unsettled_holds unsettled
  obtain ⟨node', shown, later, reached, _, _⟩ := run_advances found moved plain
  have whole := Runs.run_append_iff.mpr ⟨node, events, shown, ran, later, rfl⟩
  refine ⟨answers.map (.advance index), node', _, brings_advances pulls index answers, whole, fun stopped => ?_⟩
  exact stopped index handle ((held_unstopped whole (alive.advances index plain) reached handle).mpr owes)

/-- A poll that brings a session which is not listed spawns a thread for it. -/
theorem unlisted_leave {id : String} (ran : Runs.run step {} actions = some (node, events)) (alive : AllAlive actions)
    (running : node.runReturned = false) (unlisted : id ∉ node.active) (pulled : id ∈ pulls) :
    CanLeave pulls actions := by
  have polled : step node (.poll (.session id)) =
      some ({ node with threads := node.threads ++ [spawn id] }, .spawned node.threads.length id) := by
    simp [step, running, sessionPollOnce, unlisted]
  have whole := Runs.run_snoc_iff.mpr ⟨node, events, _, ran, polled, rfl⟩
  have spawned : (node.threads ++ [spawn id])[node.threads.length]? = some (spawn id) := List.getElem?_concat_length
  obtain ⟨late, node', shown, brings, reached, left⟩ : CanLeave pulls (actions ++ [.poll (.session id)]) :=
    unsettled_leave whole (alive.snoc rfl) spawned rfl
  refine ⟨.poll (.session id) :: late, node', shown, fun other member => ?_, by simpa using reached, left⟩
  rcases List.mem_cons.mp member with same | later
  · cases same
    exact pulled
  · exact brings other later

/-- A listed session that a thread can take off the list is spawned again. -/
theorem listed_leave {id : String} (ran : Runs.run step {} actions = some (node, events)) (alive : AllAlive actions)
    (running : node.runReturned = false) (settled : Settled node) (loose : ¬ StaysListed node id) (pulled : id ∈ pulls) :
    CanLeave pulls actions := by
  by_cases listed : id ∈ node.active
  · simp only [StaysListed, listed, true_and, not_forall] at loose
    obtain ⟨thread, member, rfl, registered⟩ := loose
    obtain ⟨index, found⟩ := List.mem_iff_getElem?.mp member
    obtain ⟨answers, thread', effects, moved, plain⟩ :=
      settled_unregisters (settled thread member) (Bool.of_not_eq_false registered)
    obtain ⟨node', shown, later, reached, returned, active⟩ := run_advances found moved plain
    have whole := Runs.run_append_iff.mpr ⟨node, events, shown, ran, later, rfl⟩
    have unlisted : thread.sessionId ∉ node'.active := by
      rw [active, List.foldl_append]
      exact fun again => (AList.mem_erase.mp again).1 rfl
    obtain ⟨late, final, seen, brings, ended, left⟩ : CanLeave pulls (actions ++ answers.map (.advance index)) :=
      unlisted_leave whole (alive.advances index plain) (returned.trans running) unlisted pulled
    refine ⟨answers.map (.advance index) ++ late, final, seen, fun other member => ?_, by simpa using ended, left⟩
    exact (List.mem_append.mp member).elim (brings_advances pulls index answers other) (brings other)
  · exact unlisted_leave ran alive running listed pulled

/-! ### `run` returns -/

/-- `stop` sets the one flag; the other is set by a poll that raises, or after `stop` was
called. Neither is taken back. -/
theorem step_flags (stepped : step node action = some (node', event)) :
    (node'.stopRequested = node.stopRequested ∨ node'.stopRequested = true ∧ action = .stop) ∧
      (node'.runReturned = node.runReturned ∨
        node'.runReturned = true ∧ (action = .poll .malformed ∨ node.stopRequested = true)) := by
  cases action with
  | poll answer =>
    simp only [step, Option.ite_none_left_eq_some, Option.some.injEq] at stepped
    obtain ⟨running, stepped⟩ := stepped
    cases answer with
    | session id =>
      rw [sessionPollOnce] at stepped
      split at stepped <;> cases stepped <;> exact ⟨.inl rfl, .inl rfl⟩
    | malformed =>
      cases stepped
      exact ⟨.inl rfl, .inr ⟨rfl, .inl rfl⟩⟩
    | _ =>
      cases stepped
      exact ⟨.inl rfl, .inl rfl⟩
  | advance index answer =>
    obtain ⟨returned, asked, _⟩ := step_advance stepped
    exact ⟨.inl asked, .inl returned⟩
  | stop =>
    cases stepped
    exact ⟨.inr ⟨rfl, rfl⟩, .inl rfl⟩
  | runReturns =>
    simp only [step, Option.ite_none_right_eq_some, Option.some.injEq, Prod.mk.injEq] at stepped
    obtain ⟨asked, rfl, _⟩ := stepped
    exact ⟨.inl rfl, .inr ⟨rfl, .inr asked⟩⟩

theorem run_flags (ran : Runs.run step node actions = some (node', events)) :
    (node.stopRequested = true → node'.stopRequested = true) ∧
      (node.runReturned = true → node'.runReturned = true) := by
  refine Runs.run_state_invariant (I := fun reached =>
    (node.stopRequested = true → reached.stopRequested = true) ∧
      (node.runReturned = true → reached.runReturned = true)) ⟨fun asked => asked, fun returned => returned⟩ ?_ ran
  intro before action after event held stepped
  obtain ⟨asked, returned⟩ := step_flags stepped
  refine ⟨fun flag => ?_, fun flag => ?_⟩
  · exact asked.elim (fun same => same.trans (held.1 flag)) And.left
  · exact returned.elim (fun same => same.trans (held.2 flag)) And.left

/-- Once `stop` was called, `run` may return at any time. -/
theorem CanLeave.outlives (leave : CanLeave pulls actions) (ran : Runs.run step {} actions = some (node, events))
    (asked : node.stopRequested = true) : ∃ after, Brings pulls after ∧ ¬ StoppedWithNode (actions ++ after) := by
  obtain ⟨late, final, shown, brings, reached, left⟩ := leave
  obtain ⟨_, _, rest, ran', later, rfl⟩ := Runs.run_append_iff.mp reached
  cases ran.symm.trans ran'
  have returns : step final .runReturns = some ({ final with runReturned := true }, .quiet) := by
    rw [step, if_pos ((run_flags later).1 asked)]
  have whole : Runs.run step {} (actions ++ (late ++ [.runReturns])) =
      some ({ final with runReturned := true }, events ++ rest ++ [.quiet]) := by
    rw [← List.append_assoc]
    exact Runs.run_snoc_iff.mpr ⟨final, _, _, reached, returns, rfl⟩
  refine ⟨late ++ [.runReturns], fun id member => ?_, fun stopped => left ?_⟩
  · rcases List.mem_append.mp member with old | new
    · exact brings id old
    · cases List.mem_singleton.mp new
  · intro index handle unstopped
    have quiet : AllStopped (events ++ rest ++ [.quiet]) := stopped _ [] (List.append_nil _).symm _ _ whole rfl
    have shown : threadEffects index (events ++ rest ++ [.quiet]) = threadEffects index (events ++ rest) := by
      rw [threadEffects_snoc]
      exact List.append_nil _
    exact quiet index handle (shown ▸ unstopped)

/-- Once `run` has returned, it need not return again. -/
theorem CanLeave.outlived (leave : CanLeave pulls actions) (ran : Runs.run step {} actions = some (node, events))
    (returned : node.runReturned = true) : ∃ after, ¬ StoppedWithNode (actions ++ after) := by
  obtain ⟨late, final, shown, _, reached, left⟩ := leave
  obtain ⟨_, _, _, ran', later, rfl⟩ := Runs.run_append_iff.mp reached
  cases ran.symm.trans ran'
  exact ⟨late, fun stopped => left (stopped _ [] (List.append_nil _).symm _ _ reached ((run_flags later).2 returned))⟩

/-- Until `run` has returned there is nothing to show. -/
theorem stopped_after {late : List Action} (ran : Runs.run step {} actions = some (node, events))
    (running : node.runReturned = false)
    (closed : ∀ early rest, late = early ++ rest → ∀ final shown,
      Runs.run step {} (actions ++ early) = some (final, shown) → AllStopped shown) :
    StoppedWithNode (actions ++ late) := by
  intro before after split reached shown ran' returned
  rcases List.append_eq_append_iff.mp split with ⟨early, rfl, rest⟩ | ⟨missing, rfl, _⟩
  · exact closed early after rest reached shown ran'
  · obtain ⟨_, _, _, first, later, _⟩ := Runs.run_append_iff.mp ran
    cases first.symm.trans ran'
    rw [(run_flags later).2 returned] at running
    cases running

/-- The flags name the actions that set them. -/
structure Told (node : Node) (actions : List Action) : Prop where
  stop : node.stopRequested = true → .stop ∈ actions
  returned : node.runReturned = true → .stop ∈ actions ∨ .poll .malformed ∈ actions

theorem told_step (told : Told node actions) (stepped : step node action = some (node', event)) :
    Told node' (actions ++ [action]) := by
  obtain ⟨asked, returned⟩ := step_flags stepped
  constructor
  · intro flag
    rcases asked with same | ⟨_, rfl⟩
    · exact List.mem_append_left _ (told.stop (same ▸ flag))
    · simp
  · intro flag
    rcases returned with same | ⟨_, rfl | asked⟩
    · exact (told.returned (same ▸ flag)).imp (List.mem_append_left _) (List.mem_append_left _)
    · exact .inr (by simp)
    · exact .inl (List.mem_append_left _ (told.stop asked))

/-- `run` returns only once `stop` was called or a poll raised. -/
theorem run_returned (ran : Runs.run step {} actions = some (node, events)) (returned : node.runReturned = true) :
    .stop ∈ actions ∨ .poll .malformed ∈ actions := by
  have told : Told node actions := by
    refine Runs.run_invariant (I := fun node actions _ => Told node actions) ?_
      (fun told stepped => told_step told stepped) ran
    constructor <;> intro flag <;> cases flag
  exact told.returned returned

/-! ### The node stops -/

theorem stop_step (ran : Runs.run step {} actions = some (node, events)) :
    Runs.run step {} (actions ++ [.stop]) = some ({ node with stopRequested := true }, events ++ [.quiet]) :=
  Runs.run_snoc_iff.mpr ⟨node, events, .quiet, ran, rfl, rfl⟩

theorem malformed_step (ran : Runs.run step {} actions = some (node, events)) (running : node.runReturned = false) :
    Runs.run step {} (actions ++ [.poll .malformed]) = some ({ node with runReturned := true }, events ++ [.quiet]) := by
  refine Runs.run_snoc_iff.mpr ⟨node, events, .quiet, ran, ?_, rfl⟩
  rw [step, running]
  rfl

/-- A node that cannot leave a container behind has settled. -/
theorem never_settled (ran : Runs.run step {} actions = some (node, events)) (never : ¬ CanLeave pulls actions) :
    AllAlive actions ∧ Settled node := by
  have alive : AllAlive actions := by
    by_contra dead
    exact never (dead_leave ran dead)
  refine ⟨alive, fun thread member => ?_⟩
  obtain ⟨index, found⟩ := List.mem_iff_getElem?.mp member
  by_contra unsettled
  exact never (unsettled_leave ran alive found (Bool.eq_false_iff.mpr unsettled))

theorem stop_settled (ran : Runs.run step {} actions = some (node, events)) (running : node.runReturned = false)
    (never : ¬ CanLeave pulls (actions ++ [.stop])) :
    AllAlive actions ∧ Settled node ∧ ∀ id ∈ pulls, StaysListed node id := by
  have ran' := stop_step ran
  obtain ⟨alive, settled⟩ := never_settled ran' never
  refine ⟨alive.before, settled, fun id pulled => ?_⟩
  by_contra loose
  exact never (listed_leave ran' alive running settled loose pulled)

theorem stop_stopped {late : List Action} (ran : Runs.run step {} actions = some (node, events))
    (running : node.runReturned = false) (alive : AllAlive actions) (closed : Closed pulls node)
    (brings : Brings pulls late) :
    StoppedWithNode (actions ++ .stop :: late) := by
  refine stopped_after ran running fun early rest split final shown reached => ?_
  apply closed_stopped ran alive closed ?_ reached
  intro id member
  have among : .poll (.session id) ∈ .stop :: late := split ▸ List.mem_append_left rest member
  exact brings id ((List.mem_cons.mp among).resolve_left (by simp))

theorem malformed_stopped {late : List Action} (ran : Runs.run step {} actions = some (node, events))
    (running : node.runReturned = false) (alive : AllAlive actions) (settled : Settled node) :
    StoppedWithNode (actions ++ .poll .malformed :: late) := by
  refine stopped_after ran running fun early rest split final shown reached => ?_
  cases early with
  | nil =>
    rw [List.append_nil] at reached
    exact settled_stopped reached alive (by cases ran.symm.trans reached; exact settled)
  | cons first early =>
    obtain ⟨rfl, _⟩ := List.cons.inj split
    have closed : Closed Set.univ { node with runReturned := true } := ⟨settled, .inl rfl⟩
    apply closed_stopped (malformed_step ran running) (alive.snoc rfl) closed (fun id _ => Set.mem_univ id)
    rwa [List.append_assoc]

/-- `run` returns only after `stop` was called or a poll raised. When `stop` is called,
no schedule of the threads and of the polls, which bring sessions of `pulls`, leaves a
container behind exactly if no liveness check failed so far, every session thread is past
its containers and the sessions of `pulls` stay listed; likewise when a poll raises, after
which there are no polls. -/
theorem no_container_outlives_node_iff (before : List Action) :
    (.stop ∉ before → .poll .malformed ∉ before → StoppedWithNode before) ∧
      ∀ (node : Node) (events : List Event),
        Runs.run step {} before = some (node, events) → node.runReturned = false →
          (∀ pulls, (∀ after, Brings pulls after → StoppedWithNode (before ++ .stop :: after)) ↔
              AllAlive before ∧ Settled node ∧ ∀ id ∈ pulls, StaysListed node id) ∧
            ((∀ after, StoppedWithNode (before ++ .poll .malformed :: after)) ↔ AllAlive before ∧ Settled node) := by
  refine ⟨?_, fun node events ran running => ⟨fun pulls => ⟨fun stopped => ?_, ?_⟩, fun stopped => ?_, ?_⟩⟩
  · rintro unstopped sound first after rfl node events ran returned
    rcases run_returned ran returned with asked | raised
    · exact absurd (List.mem_append_left after asked) unstopped
    · exact absurd (List.mem_append_left after raised) sound
  · refine stop_settled ran running fun leave => ?_
    obtain ⟨after, brings, outlives⟩ := leave.outlives (stop_step ran) rfl
    rw [List.append_assoc] at outlives
    exact outlives (stopped after brings)
  · rintro ⟨alive, settled, stays⟩ after brings
    exact stop_stopped ran running alive ⟨settled, .inr stays⟩ brings
  · have never : ¬ CanLeave ∅ (before ++ [.poll .malformed]) := by
      intro leave
      obtain ⟨after, outlives⟩ := leave.outlived (malformed_step ran running) rfl
      rw [List.append_assoc] at outlives
      exact outlives (stopped after)
    obtain ⟨alive, settled⟩ := never_settled (malformed_step ran running) never
    exact ⟨alive.before, settled⟩
  · rintro ⟨alive, settled⟩ after
    exact malformed_stopped ran running alive settled

/-- `stop` is called after a failed ready report, while a poll brings the session again. -/
theorem no_container_outlives_node_stale :
    StoppedWithNode (onlySession readyFails ++ .stop :: [.poll (.session "s1"), .runReturns]) :=
  (((no_container_outlives_node_iff (onlySession readyFails)).2 _ _ rfl rfl).1 {"s1"}).mpr
    ⟨by decide, by decide, fun id pulled => by obtain rfl : id = "s1" := pulled; decide⟩ _
    fun id member => (by simpa using member : id = "s1")

/-- `stop` is called while the session waits for its next heartbeat. -/
def stoppedDuringSession : List Action :=
  onlySession (healthyStart ⟨40001, "tok", some "c1", none, "docker"⟩) ++ [.stop, .runReturns]

theorem container_outlives_node : ¬ StoppedWithNode stoppedDuringSession := by
  intro stopped
  refine stopped stoppedDuringSession [] (List.append_nil _).symm _ _ rfl rfl 0 ⟨40001, "tok", some "c1", none, "docker"⟩ ?_
  exact ⟨[.quiet], _, _, rfl, rfl, by decide⟩

end NodeSessions
end ComputeCloudNode
