import ComputeCloudNode.Heartbeats
import ComputeCloudNode.Lib.Traces

/-! What the heartbeat loops make of a server that has lost its registry. A node
registers again before its next heartbeat in all the ways a server can say that it
does not know the node, but for one: the HTTP loop raises on status 404 before it
looks at the body. And a registration that is repeated does not change the id under
which the node sends its requests. -/
namespace ComputeCloudNode.Heartbeats
open Runs

variable {F : Type} [PyRuntime F] {node next : Node F} {label : Label F} {event : Event F}

/-- A new node. -/
def start (useHttp : Bool) (nodeId : Value F) : Node F := { useHttp, nodeId }

/-- What the ways of stepping have in common before registration. -/
structure Fresh (node : Node F) : Prop where
  loop : node.main = .connecting → node.loop = .notStarted
  known : node.loop = .notStarted → node.forgotten = false
  started : node.loop ≠ .notStarted → node.main = .running

omit [PyRuntime F] in
theorem start_fresh (useHttp : Bool) (nodeId : Value F) : Fresh (start useHttp nodeId) :=
  ⟨fun _ => rfl, fun _ => rfl, fun started => absurd rfl started⟩

/-- The successor and the request of every label, with what must hold before. -/
inductive Stretch (node : Node F) : Label F → Node F → Event F → Prop
  | connected {answer : RegisterAnswer F} (at_ : node.main = .connecting) (transport : answer.isHttp = node.useHttp) :
    Stretch node (.connectAndRegister answer) (connectAndRegister node answer) (.registration node.nodeId)
  | stopped : Stretch node .stop { node with stopRequested := true } .quiet
  | beaten {answer : HeartbeatAnswer F} (at_ : node.loop = .beating) (alive : node.stopRequested = false)
      (transport : answer.isHttp = node.useHttp) :
    Stretch node (.heartbeat answer) (heartbeat node answer) (.heartbeat node.nodeId answer)
  | reregistered {answer : RegisterAnswer F} (at_ : node.loop = .reregistering)
      (transport : answer.isHttp = node.useHttp) :
    Stretch node (.reregister answer) (reregister node answer) (.registration node.nodeId)
  | requested {kind : Request} (at_ : node.main = .running) (served : kind.needsHttp = true → node.useHttp = true) :
    Stretch node (.request kind) node (.request kind node.nodeId)

theorem step_stretch (stepped : step node label = some (next, event)) : Stretch node label next event := by
  cases label with
  | connectAndRegister answer =>
    by_cases ready : node.main = .connecting ∧ answer.isHttp = node.useHttp
    · rw [step, if_pos ready] at stepped
      cases stepped
      exact .connected ready.1 ready.2
    · rw [step, if_neg ready] at stepped
      cases stepped
  | stop =>
    cases stepped
    exact .stopped
  | heartbeat answer =>
    by_cases ready : node.loop = .beating ∧ node.stopRequested = false ∧ answer.isHttp = node.useHttp
    · rw [step, if_pos ready] at stepped
      cases stepped
      exact .beaten ready.1 ready.2.1 ready.2.2
    · rw [step, if_neg ready] at stepped
      cases stepped
  | reregister answer =>
    by_cases ready : node.loop = .reregistering ∧ answer.isHttp = node.useHttp
    · rw [step, if_pos ready] at stepped
      cases stepped
      exact .reregistered ready.1 ready.2
    · rw [step, if_neg ready] at stepped
      cases stepped
  | request kind =>
    by_cases ready : node.main = .running ∧ (kind.needsHttp = true → node.useHttp = true)
    · rw [step, if_pos ready] at stepped
      cases stepped
      exact .requested ready.1 ready.2
    · rw [step, if_neg ready] at stepped
      cases stepped

theorem step_fresh (fresh : Fresh node) (stepped : step node label = some (next, event)) : Fresh next := by
  cases step_stretch stepped with
  | @connected answer at_ =>
    cases found : accepted answer with
    | none =>
      simp only [connectAndRegister, found]
      exact ⟨by simp, fun _ => fresh.known (fresh.loop at_), by simp [fresh.loop at_]⟩
    | some response =>
      simp only [connectAndRegister, found]
      exact ⟨by simp, by simp, by simp⟩
  | stopped => exact ⟨fresh.loop, fresh.known, fresh.started⟩
  | @beaten answer at_ =>
    have running := fresh.started (by simp [at_])
    cases again : reregisters answer <;> simp only [heartbeat, again] <;>
      exact ⟨by simp [running], by simp, by simp [running]⟩
  | reregistered at_ =>
    have running := fresh.started (by simp [at_])
    exact ⟨by simp [reregister, running], by simp [reregister], by simp [reregister, running]⟩
  | requested => exact fresh

/-! ### A forgotten node registers again -/

omit [PyRuntime F] in
/-- The body of an answer that says the node is unknown. -/
theorem unacknowledged_body {status : Nat} {body : Option (Value F)} (other : status ≠ 404)
    (unknown : saysUnknown (.http (.response status body)) = true) :
    status = 200 ∧ ∃ data, body = some (.dict data) ∧ data.lookup "acknowledged" = some (.bool false) := by
  simp only [saysUnknown, other, decide_false, Bool.false_or, Bool.and_eq_true, decide_eq_true_eq] at unknown
  obtain ⟨ok, unacknowledged⟩ := unknown
  refine ⟨ok, ?_⟩
  cases body with
  | none => cases unacknowledged
  | some v =>
    cases v with
    | dict data =>
      refine ⟨data, rfl, ?_⟩
      dsimp only at unacknowledged
      cases found : data.lookup "acknowledged" with
      | none =>
        rw [found] at unacknowledged
        cases unacknowledged
      | some flag =>
        rw [found] at unacknowledged
        cases flag with
        | bool b =>
          cases b with
          | false => rfl
          | true => cases unacknowledged
        | _ => cases unacknowledged
    | _ => cases unacknowledged

/-- Every answer but a 404 that says the node is unknown makes the loop register again. -/
theorem reregisters_of_saysUnknown {answer : HeartbeatAnswer F} (unknown : saysUnknown answer = true)
    (heard : ∀ body, answer ≠ .http (.response 404 body)) : reregisters answer = true := by
  cases answer with
  | http answer =>
    cases answer with
    | failed => cases unknown
    | response status body =>
      have other : status ≠ 404 := by
        rintro rfl
        exact heard body rfl
      obtain ⟨rfl, data, rfl, flag⟩ := unacknowledged_body other unknown
      have read : (HttpAnswer.response 200 (some (.dict data)) : HttpAnswer F).json = some (.dict data) := rfl
      simp only [reregisters, reregistersHttp, read, flag, Option.map_some, Option.getD_some, Value.truthy,
        Bool.not_false]
  | grpc answer =>
    cases answer with
    | rpcError code => exact unknown
    | _ => cases unknown

/-- No heartbeat can be sent while the server's word that it does not know the node
is unanswered. -/
def AnsweredFirst (node : Node F) : Prop :=
  ∀ label next nodeId answer, step node label = some (next, .heartbeat nodeId answer) → node.forgotten = false

theorem answeredFirst_iff : AnsweredFirst node ↔
    (node.loop = .beating → node.stopRequested = false → node.forgotten = false) := by
  constructor
  · intro answered at_ alive
    cases http : node.useHttp with
    | true =>
      exact answered (.heartbeat (.http .failed)) _ _ _ (if_pos ⟨at_, alive, http.symm⟩)
    | false =>
      exact answered (.heartbeat (.grpc .failed)) _ _ _ (if_pos ⟨at_, alive, http.symm⟩)
  · intro known label next nodeId answer stepped
    cases step_stretch stepped with
    | beaten at_ alive => exact known at_ alive

/-- The node is not told by status 404 that the server does not know it. -/
def NotToldBy404 (_ : Node F) (label : Label F) : Prop := ∀ body, label ≠ .heartbeat (.http (.response 404 body))

theorem step_answeredFirst (fresh : Fresh node) (answered : AnsweredFirst node) (told : NotToldBy404 node label)
    (stepped : step node label = some (next, event)) : AnsweredFirst next := by
  rw [answeredFirst_iff] at answered ⊢
  cases step_stretch stepped with
  | @connected answer at_ =>
    intro _ _
    have known := fresh.known (fresh.loop at_)
    cases found : accepted answer <;> simpa only [connectAndRegister, found] using known
  | stopped =>
    intro _ alive
    cases alive
  | @beaten answer at_ alive =>
    intro again _
    have known := answered at_ alive
    by_cases unknown : saysUnknown answer = true
    · have registers := reregisters_of_saysUnknown unknown fun body same => told body (congrArg Label.heartbeat same)
      simp only [heartbeat, registers, if_true] at again
      cases again
    · simp only [heartbeat, known, Bool.false_or]
      exact Bool.eq_false_iff.mpr unknown
  | reregistered =>
    intro _ _
    rfl
  | requested => exact answered

theorem step_404_unanswered (told : ¬ NotToldBy404 node label) (stepped : step node label = some (next, event)) :
    ¬ AnsweredFirst next := by
  intro answered
  rw [answeredFirst_iff] at answered
  apply told
  rintro body rfl
  cases step_stretch stepped with
  | beaten at_ alive =>
    have unanswered := answered rfl alive
    simp only [heartbeat, saysUnknown, decide_true, Bool.true_or, Bool.or_true] at unanswered
    cases unanswered

/-- The event is a heartbeat whose answer says that the node is unknown. -/
def Event.saysUnknown : Event F → Prop
  | .heartbeat _ answer => Heartbeats.saysUnknown answer = true
  | _ => False

def Event.isHeartbeat : Event F → Prop
  | .heartbeat _ _ => True
  | _ => False

def Event.isRegistration : Event F → Prop
  | .registration _ => True
  | _ => False

/-- The server has said so and no registration has been requested since. -/
def Unanswered (events : List (Event F)) : Prop :=
  Traces.Since Event.saysUnknown (fun event => ¬ event.isRegistration) events

variable {events : List (Event F)}

omit [PyRuntime F] in
theorem unanswered_snoc_other (polite : ¬ event.saysUnknown) (other : ¬ event.isRegistration) :
    Unanswered (events ++ [event]) ↔ Unanswered events := by
  rw [Unanswered, Traces.since_snoc]
  constructor
  · rintro (unknown | ⟨_, unanswered⟩)
    · exact absurd unknown polite
    · exact unanswered
  · exact fun unanswered => .inr ⟨other, unanswered⟩

omit [PyRuntime F] in
theorem not_unanswered_registration (nodeId : Value F) : ¬ Unanswered (events ++ [.registration nodeId]) := by
  rw [Unanswered, Traces.since_snoc]
  rintro (unknown | ⟨other, _⟩)
  · exact unknown
  · exact other trivial

/-- The field of the node says what the requests and answers so far say. -/
theorem step_forgotten_iff (fresh : Fresh node) (tracked : node.forgotten = true ↔ Unanswered events)
    (stepped : step node label = some (next, event)) :
    next.forgotten = true ↔ Unanswered (events ++ [event]) := by
  cases step_stretch stepped with
  | @connected answer at_ =>
    have known := fresh.known (fresh.loop at_)
    simp only [not_unanswered_registration, iff_false]
    cases found : accepted answer <;> simp [connectAndRegister, found, known]
  | stopped =>
    rw [unanswered_snoc_other id id]
    exact tracked
  | @beaten answer =>
    rw [Unanswered, Traces.since_snoc]
    simp only [heartbeat, Bool.or_eq_true, Event.saysUnknown, Event.isRegistration, not_false_eq_true, true_and]
    rw [tracked]
    exact or_comm
  | reregistered => simp [reregister, not_unanswered_registration]
  | requested =>
    rw [unanswered_snoc_other id id]
    exact tracked

/-- Between the word that the node is unknown and the next heartbeat the node has
asked for registration. -/
def Recovers (events : List (Event F)) : Prop :=
  Traces.Each (fun early event => event.isHeartbeat → ¬ Unanswered early) events

theorem run_recovers {useHttp : Bool} {nodeId : Value F} {labels : List (Label F)} {final : Node F}
    (told : Meets step NotToldBy404 (start useHttp nodeId) labels)
    (ran : run step (start useHttp nodeId) labels = some (final, events)) : Recovers events := by
  have kept : Fresh final ∧ AnsweredFirst final ∧ (final.forgotten = true ↔ Unanswered events) ∧ Recovers events := by
    refine run_invariant_of_meets (I := fun node _ events => Fresh node ∧ AnsweredFirst node ∧
      (node.forgotten = true ↔ Unanswered events) ∧ Recovers events) ?_ ?_ told ran
    · refine ⟨start_fresh useHttp nodeId, ?_, ?_, Traces.each_nil⟩
      · exact fun _ _ _ _ _ => rfl
      · constructor
        · intro impossible
          cases impossible
        · exact fun impossible => absurd impossible Traces.not_since_nil
    · rintro before inputs outputs label after event ⟨fresh, answered, tracked, recovers⟩ told stepped
      refine ⟨step_fresh fresh stepped, step_answeredFirst fresh answered told stepped,
        step_forgotten_iff fresh tracked stepped, Traces.each_snoc.mpr ⟨recovers, ?_⟩⟩
      intro beats unanswered
      cases event with
      | heartbeat nodeId answer =>
        have known := answered label after nodeId answer stepped
        rw [tracked.mpr unanswered] at known
        cases known
      | _ => exact beats
  exact kept.2.2.2

/-- A node that the server does not know asks for registration before its next
heartbeat, on both transports, in every run in which it is not told by status 404,
and in no other run. -/
theorem forgotten_node_reregisters_iff (useHttp : Bool) (nodeId : Value F) (labels : List (Label F)) :
    (Always step AnsweredFirst (start useHttp nodeId) labels ↔
        Meets step NotToldBy404 (start useHttp nodeId) labels) ∧
      (Meets step NotToldBy404 (start useHttp nodeId) labels → ∀ final events,
        run step (start useHttp nodeId) labels = some (final, events) → Recovers events) := by
  refine ⟨always_iff_meets_of_invariant (I := Fresh) (start_fresh useHttp nodeId) step_fresh ?_ ?_ ?_, ?_⟩
  · exact fun _ _ _ _ _ => rfl
  · exact step_answeredFirst
  · exact fun _ _ told stepped => step_404_unanswered told stepped
  · exact fun told final events ran => run_recovers told ran

/-- A node registers, is told by status 404 that it is unknown, and sends its next
heartbeat. -/
theorem told_by_404_beats_on :
    ¬ ∀ final events, run step (start true (.str "node-1" : Value Int))
        [.connectAndRegister (.http (.response 200 (some (.dict [("accepted", .bool true)])))),
          .heartbeat (.http (.response 404 none)), .heartbeat (.http (.response 404 none))] =
          some (final, events) → Recovers events := by
  intro recovers
  have beats := recovers _ _ rfl
    [.registration (.str "node-1"), .heartbeat (.str "node-1") (.http (.response 404 none))]
    (.heartbeat (.str "node-1") (.http (.response 404 none))) [] rfl trivial
  exact beats ⟨[.registration (.str "node-1")], _, [], rfl, rfl, by simp⟩

/-! ### The id of a node that registers again -/

/-- The id under which the event is sent, if it is no registration. -/
def Event.addressed : Event F → Option (Value F)
  | .heartbeat nodeId _ => some nodeId
  | .request _ nodeId => some nodeId
  | _ => none

/-- All requests that can be sent carry the id in the last registration that was
accepted. -/
def Addressed (node : Node F) : Prop :=
  ∀ label next event nodeId, step node label = some (next, event) → event.addressed = some nodeId →
    node.assigned = some nodeId

theorem addressed_iff (fresh : Fresh node) :
    Addressed node ↔ (node.main = .running → node.assigned = some node.nodeId) := by
  constructor
  · intro addressed running
    exact addressed (.request .pull) node (.request .pull node.nodeId) node.nodeId
      (if_pos ⟨running, by simp [Request.needsHttp]⟩) rfl
  · intro assigned label next event nodeId stepped sent
    cases step_stretch stepped with
    | beaten at_ =>
      cases sent
      exact assigned (fresh.started (by simp [at_]))
    | requested at_ =>
      cases sent
      exact assigned at_
    | _ => cases sent

/-- A registration that is accepted names the node. -/
def NamesNode (_ : Node F) : Label F → Prop
  | .connectAndRegister answer => ∀ response, accepted answer = some response → response.nodeId.truthy = true
  | .reregister answer => ∀ response, accepted answer = some response → response.nodeId.truthy = true
  | _ => True

/-- A registration that is repeated and accepted carries the id that the node has. -/
def KeepsId (node : Node F) : Label F → Prop
  | .reregister answer => ∀ response, accepted answer = some response → response.nodeId = node.nodeId
  | _ => True

/-- Any registration that is accepted carries the id that the node will have. -/
def CarriesId (node : Node F) : Label F → Prop
  | .connectAndRegister answer => ∀ response, accepted answer = some response →
    response.nodeId.truthy = true ∨ response.nodeId = node.nodeId
  | label => KeepsId node label

theorem step_addressed (fresh : Fresh node) (addressed : Addressed node) (carried : CarriesId node label)
    (stepped : step node label = some (next, event)) : Addressed next := by
  rw [addressed_iff (step_fresh fresh stepped)]
  rw [addressed_iff fresh] at addressed
  cases step_stretch stepped with
  | @connected answer at_ =>
    cases found : accepted answer with
    | none =>
      intro running
      simp only [connectAndRegister, found] at running
      cases running
    | some response =>
      intro _
      simp only [connectAndRegister, found]
      rcases carried response found with truthy | same
      · rw [if_pos truthy]
      · by_cases truthy : response.nodeId.truthy = true
        · rw [if_pos truthy]
        · rw [if_neg truthy, same]
  | stopped => exact addressed
  | beaten => exact addressed
  | @reregistered answer at_ =>
    intro running
    cases found : accepted answer with
    | none => simpa only [reregister, found] using addressed running
    | some response =>
      simp only [reregister, found]
      rw [carried response found]
  | requested => exact addressed

/-- An accepted registration with another id is not written back. -/
theorem step_not_addressed (fresh : Fresh node) (lost : ¬ CarriesId node label)
    (stepped : step node label = some (next, event)) : ¬ Addressed next := by
  intro addressed
  rw [addressed_iff (step_fresh fresh stepped)] at addressed
  apply lost
  cases step_stretch stepped with
  | @connected answer at_ =>
    intro response found
    simp only [connectAndRegister, found, true_implies, Option.some.injEq] at addressed
    by_cases truthy : response.nodeId.truthy = true
    · exact .inl truthy
    · rw [if_neg truthy] at addressed
      exact .inr addressed
  | @reregistered answer at_ =>
    intro response found
    have running := fresh.started (by simp [at_])
    simp only [reregister, found, running, true_implies, Option.some.injEq] at addressed
    exact addressed
  | _ => trivial

/-- Every request carries the id that the server assigned last, in all runs in
which repeated registrations assign the same id again, and in no others. -/
theorem requests_carry_assigned_id_iff {useHttp : Bool} {nodeId : Value F} {labels : List (Label F)}
    (named : Meets step NamesNode (start useHttp nodeId) labels) :
    Always step Addressed (start useHttp nodeId) labels ↔ Meets step KeepsId (start useHttp nodeId) labels := by
  have exactly : Always step Addressed (start useHttp nodeId) labels ↔
      Meets step CarriesId (start useHttp nodeId) labels := by
    refine always_iff_meets_of_invariant (I := Fresh) (start_fresh useHttp nodeId) step_fresh ?_ ?_ ?_
    · rw [addressed_iff (start_fresh useHttp nodeId)]
      intro running
      cases running
    · exact step_addressed
    · exact fun fresh _ lost stepped => step_not_addressed fresh lost stepped
  rw [exactly]
  constructor
  · intro carried
    refine carried.mono fun node label carries => ?_
    cases label with
    | connectAndRegister answer => trivial
    | _ => exact carries
  · intro kept
    refine (kept.and named).mono fun node label ⟨keeps, names⟩ => ?_
    cases label with
    | connectAndRegister answer => exact fun response found => .inl (names response found)
    | _ => exact keeps

/-- An answer of the server to a registration, with the id it assigns. -/
def assigns (nodeId : String) : RegisterAnswer Int :=
  .http (.response 200 (some (.dict [("accepted", .bool true), ("node_id", .str nodeId)])))

/-- A node is assigned one id, is forgotten, and registers again. -/
def registeredTwice (first second : String) : List (Label Int) :=
  [.connectAndRegister (assigns first),
    .heartbeat (.http (.response 200 (some (.dict [("acknowledged", .bool false)])))),
    .reregister (assigns second), .request .pull]

theorem requests_carry_assigned_id_twice :
    Always step Addressed (start true (.str "host")) (registeredTwice "node-1" "node-1") := by
  have named : Meets step NamesNode (start true (.str "host")) (registeredTwice "node-1" "node-1") := by
    simp only [registeredTwice, meets_cons_iff, meets_nil, and_true]
    rintro _ _ connected
    cases connected
    refine ⟨fun response found => by cases found; rfl, ?_⟩
    rintro _ _ beaten
    cases beaten
    refine ⟨trivial, ?_⟩
    rintro _ _ again
    cases again
    exact ⟨fun response found => by cases found; rfl, fun _ _ _ => trivial⟩
  apply (requests_carry_assigned_id_iff named).mpr
  simp only [registeredTwice, meets_cons_iff, meets_nil, and_true]
  rintro _ _ connected
  cases connected
  refine ⟨trivial, ?_⟩
  rintro _ _ beaten
  cases beaten
  refine ⟨trivial, ?_⟩
  rintro _ _ again
  cases again
  exact ⟨fun response found => by cases found; rfl, fun _ _ _ => trivial⟩

theorem new_id_not_adopted :
    ¬ Always step Addressed (start true (.str "host")) (registeredTwice "node-1" "node-2") := by
  intro always
  have addressed := always (registeredTwice "node-1" "node-2") [] rfl _ _ rfl
  have wrong := addressed (.request .pull) _ _ (.str "node-1") rfl rfl
  exact absurd (Value.str.inj (Option.some.inj wrong)) (by decide)

end ComputeCloudNode.Heartbeats
