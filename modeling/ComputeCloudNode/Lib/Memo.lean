import ComputeCloudNode.Lib.Mealy

/-! Calls that may raise and that remember what they have computed in a state. If every
remembered value is what the computation gives, remembering changes no answer. -/
namespace Memo

variable {σ ε α β ι : Type}

/-- A call on an object with this state. -/
abbrev Call (σ ε α : Type) := ExceptT ε (StateM σ) α

/-- The answer to a call and the state after it. -/
def answer (call : Call σ ε α) (s : σ) : Except ε α × σ := call.run.run s

/-- Give a result that needs no state. -/
def orRaise : Except ε α → Call σ ε α
  | .ok a => pure a
  | .error e => throw e

/-- Recall a value, or compute it and keep it. -/
def memo (read : σ → Option α) (keep : α → σ → σ) (compute : Call σ ε α) : Call σ ε α := do
  match read (← get) with
  | some a => return a
  | none => do
    let a ← compute
    modify (keep a)
    return a

/-- From every state with the invariant the call gives this result, and it keeps the
invariant. -/
def Answers (I : σ → Prop) (call : Call σ ε α) (result : Except ε α) : Prop :=
  ∀ s, I s → (answer call s).1 = result ∧ I (answer call s).2

variable {I : σ → Prop} {call compute : Call σ ε α} {result : Except ε α}

theorem answer_bind (call : Call σ ε α) (next : α → Call σ ε β) (s : σ) :
    answer (call >>= next) s =
      match answer call s with
      | (.ok a, after) => answer (next a) after
      | (.error e, after) => (.error e, after) := by
  have split : answer (call >>= next) s =
      match answer call s with
      | (outcome, after) => (ExceptT.bindCont next outcome).run after := rfl
  rw [split]
  rcases answer call s with ⟨outcome, after⟩
  cases outcome <;> rfl

theorem Answers.orRaise (result : Except ε α) : Answers I (orRaise result) result := by
  intro s holds
  cases result <;> exact ⟨rfl, holds⟩

theorem Answers.bind (first : Answers I call result) {next : α → Call σ ε β} {results : α → Except ε β}
    (second : ∀ a, result = .ok a → Answers I (next a) (results a)) :
    Answers I (call >>= next) (result >>= results) := by
  intro s holds
  obtain ⟨same, kept⟩ := first s holds
  rw [answer_bind]
  revert same kept
  rcases answer call s with ⟨outcome, after⟩
  rintro rfl kept
  cases outcome with
  | ok a => exact second a rfl after kept
  | error e => exact ⟨rfl, kept⟩

/-- Remembering is sound if only what the computation gives is recalled and kept. -/
theorem Answers.memo {read : σ → Option α} {keep : α → σ → σ} (computed : Answers I compute result)
    (recalled : ∀ s a, I s → read s = some a → result = .ok a)
    (kept : ∀ s a, I s → result = .ok a → I (keep a s)) : Answers I (memo read keep compute) result := by
  intro s holds
  have split : answer (Memo.memo read keep compute) s =
      match read s with
      | some a => (.ok a, s)
      | none => answer (compute >>= fun a => do modify (keep a); return a) s := by
    have stands : answer (get : Call σ ε σ) s = (.ok s, s) := rfl
    unfold Memo.memo
    rw [answer_bind, stands]
    dsimp only
    cases read s <;> rfl
  rw [split]
  cases held : read s with
  | some a => exact ⟨(recalled s a holds held).symm, holds⟩
  | none =>
    obtain ⟨same, after⟩ := computed s holds
    simp only [answer_bind]
    revert same after
    rcases answer compute s with ⟨outcome, s'⟩
    rintro rfl after
    cases outcome with
    | ok a => exact ⟨rfl, kept s' a after rfl⟩
    | error e => exact ⟨rfl, after⟩

/-- Calls on one object, one after the other, give what each gives by itself. -/
theorem run_answers {calls : ι → Call σ ε α} {results : ι → Except ε α} (each : ∀ i, Answers I (calls i) (results i))
    {s : σ} (holds : I s) (is : List ι) :
    (Mealy.run (fun s i => answer (calls i) s) s is).1 = is.map results := by
  induction is generalizing s with
  | nil => rfl
  | cons i is ih =>
    obtain ⟨same, kept⟩ := each i s holds
    rw [Mealy.run_cons, List.map_cons, same, ih kept]

end Memo
