import Mathlib.Data.List.Induction

/-! Finite runs of a partial, deterministic step function that consumes one
input and shows one output at a time. A machine in which several parties take
turns is of this form once the input names the party that moves, so a list of
inputs is an interleaving and a statement about every list is a statement about
every schedule.

`run_invariant` is the induction all safety proofs use: what holds at the start
and survives one step holds after every run. `Meets` is a condition on the state
before a step together with the step's input; `run_invariant_of_meets` is the
same induction for runs whose steps all satisfy it. -/
namespace Runs

variable {σ ι ο : Type*}

/-- The successor and the output of one input, or nothing when the input cannot
happen in this state. -/
abbrev Step (σ ι ο : Type*) := σ → ι → Option (σ × ο)

/-- Feed the inputs in order, collecting the outputs. -/
def run (step : Step σ ι ο) : σ → List ι → Option (σ × List ο)
  | start, [] => some (start, [])
  | start, input :: inputs =>
    (step start input).bind fun (next, output) =>
      (run step next inputs).map fun (final, outputs) => (final, output :: outputs)

variable {step : Step σ ι ο} {start middle final : σ} {inputs : List ι} {outputs : List ο}

@[simp] theorem run_nil : run step start [] = some (start, []) := rfl

theorem run_cons_iff {input : ι} :
    run step start (input :: inputs) = some (final, outputs) ↔
      ∃ next output rest, step start input = some (next, output) ∧
        run step next inputs = some (final, rest) ∧ outputs = output :: rest := by
  simp only [run, Option.bind_eq_some_iff, Option.map_eq_some_iff, Prod.exists, Prod.mk.injEq]
  constructor
  · rintro ⟨next, output, stepped, last, rest, ran, rfl, rfl⟩
    exact ⟨next, output, rest, stepped, ran, rfl⟩
  · rintro ⟨next, output, rest, stepped, ran, rfl⟩
    exact ⟨next, output, stepped, final, rest, ran, rfl, rfl⟩

theorem run_append_iff {first second : List ι} :
    run step start (first ++ second) = some (final, outputs) ↔
      ∃ middle early late, run step start first = some (middle, early) ∧
        run step middle second = some (final, late) ∧ outputs = early ++ late := by
  induction first generalizing start outputs with
  | nil =>
    constructor
    · intro ran
      exact ⟨start, [], outputs, rfl, ran, rfl⟩
    · rintro ⟨middle, early, late, ran, later, rfl⟩
      cases ran
      exact later
  | cons input first ih =>
    rw [List.cons_append, run_cons_iff]
    constructor
    · rintro ⟨next, output, rest, stepped, ran, rfl⟩
      obtain ⟨middle, early, late, before, after, rfl⟩ := ih.mp ran
      exact ⟨middle, output :: early, late,
        run_cons_iff.mpr ⟨next, output, early, stepped, before, rfl⟩, after, rfl⟩
    · rintro ⟨middle, early, late, before, after, rfl⟩
      obtain ⟨next, output, rest, stepped, ran, rfl⟩ := run_cons_iff.mp before
      exact ⟨next, output, rest ++ late, stepped, ih.mpr ⟨middle, rest, late, ran, after, rfl⟩, rfl⟩

theorem run_snoc_iff {input : ι} :
    run step start (inputs ++ [input]) = some (final, outputs) ↔
      ∃ middle early output, run step start inputs = some (middle, early) ∧
        step middle input = some (final, output) ∧ outputs = early ++ [output] := by
  rw [run_append_iff]
  constructor
  · rintro ⟨middle, early, late, before, after, rfl⟩
    obtain ⟨next, output, rest, stepped, ran, rfl⟩ := run_cons_iff.mp after
    cases ran
    exact ⟨middle, early, output, before, stepped, rfl⟩
  · rintro ⟨middle, early, output, before, stepped, rfl⟩
    exact ⟨middle, early, [output], before,
      run_cons_iff.mpr ⟨final, output, [], stepped, rfl, rfl⟩, rfl⟩

/-- What holds at the start and survives every step holds after every run. The
invariant may speak of the inputs consumed and the outputs shown so far. -/
theorem run_invariant {I : σ → List ι → List ο → Prop} (base : I start [] [])
    (preserved : ∀ {before inputs outputs input after output}, I before inputs outputs →
      step before input = some (after, output) → I after (inputs ++ [input]) (outputs ++ [output]))
    (ran : run step start inputs = some (final, outputs)) : I final inputs outputs := by
  induction inputs using List.reverseRecOn generalizing final outputs with
  | nil =>
    cases ran
    exact base
  | append_singleton inputs input ih =>
    obtain ⟨middle, early, output, before, stepped, rfl⟩ := run_snoc_iff.mp ran
    exact preserved (ih before) stepped

/-- The same rule for a property of the state alone. -/
theorem run_state_invariant {I : σ → Prop} (base : I start)
    (preserved : ∀ {before input after output}, I before →
      step before input = some (after, output) → I after)
    (ran : run step start inputs = some (final, outputs)) : I final :=
  run_invariant (I := fun state _ _ => I state) base
    (fun holds stepped => preserved holds stepped) ran

/-- Every step of the run satisfies `C`, a condition on the state before the
step and on its input. -/
def Meets (step : Step σ ι ο) (C : σ → ι → Prop) (start : σ) (inputs : List ι) : Prop :=
  ∀ before input after, inputs = before ++ input :: after →
    ∀ middle shown, run step start before = some (middle, shown) →
      ∀ next output, step middle input = some (next, output) → C middle input

variable {C : σ → ι → Prop} {P : σ → Prop}

theorem Meets.before {first second : List ι} (met : Meets step C start (first ++ second)) :
    Meets step C start first := by
  rintro before input after rfl
  exact met before input (after ++ second) (by simp)

variable {D : σ → ι → Prop}

theorem Meets.and (left : Meets step C start inputs) (right : Meets step D start inputs) :
    Meets step (fun state input => C state input ∧ D state input) start inputs :=
  fun before input after split middle shown ran next output stepped =>
    ⟨left before input after split middle shown ran next output stepped,
      right before input after split middle shown ran next output stepped⟩

theorem Meets.mono (met : Meets step C start inputs)
    (weaker : ∀ state input, C state input → D state input) : Meets step D start inputs :=
  fun before input after split middle shown ran next output stepped =>
    weaker middle input (met before input after split middle shown ran next output stepped)

theorem meets_nil : Meets step C start [] := by
  intro before input after split
  simp at split

/-- `Meets` step by step. -/
theorem meets_cons_iff {input : ι} : Meets step C start (input :: inputs) ↔
    ∀ next output, step start input = some (next, output) →
      C start input ∧ Meets step C next inputs := by
  constructor
  · intro met next output stepped
    refine ⟨met [] input inputs rfl start [] rfl next output stepped, ?_⟩
    rintro before later after rfl middle shown ran
    exact met (input :: before) later after rfl middle (output :: shown)
      (run_cons_iff.mpr ⟨next, output, shown, stepped, ran, rfl⟩)
  · rintro met (_ | ⟨first, before⟩) later after split middle shown ran next output stepped
    · cases split
      cases ran
      exact (met next output stepped).1
    · cases split
      obtain ⟨second, shown', rest, stepped', ran', rfl⟩ := run_cons_iff.mp ran
      exact (met second shown' stepped').2 before later after rfl middle rest ran' next output stepped

/-- On a given list of inputs `Meets` is checked by running the machine. -/
instance decidableMeets [∀ state input, Decidable (C state input)] :
    ∀ (start : σ) (inputs : List ι), Decidable (Meets step C start inputs)
  | _, [] => .isTrue meets_nil
  | start, input :: inputs =>
    match stepped : step start input with
    | none => .isTrue (meets_cons_iff.mpr fun _ _ taken => by rw [stepped] at taken; cases taken)
    | some (next, output) =>
      have : Decidable (Meets step C next inputs) := decidableMeets next inputs
      decidable_of_iff (C start input ∧ Meets step C next inputs)
        ⟨fun met => meets_cons_iff.mpr fun _ _ taken => by rw [stepped] at taken; cases taken; exact met,
          fun met => meets_cons_iff.mp met next output stepped⟩

theorem Meets.last {input : ι} {next : σ} {output : ο}
    (met : Meets step C start (inputs ++ [input]))
    (ran : run step start inputs = some (middle, outputs))
    (stepped : step middle input = some (next, output)) : C middle input :=
  met inputs input [] rfl middle outputs ran next output stepped

theorem meets_snoc_iff {input : ι} {next : σ} {output : ο} (ran : run step start inputs = some (middle, outputs))
    (stepped : step middle input = some (next, output)) :
    Meets step C start (inputs ++ [input]) ↔ Meets step C start inputs ∧ C middle input := by
  constructor
  · intro met
    exact ⟨met.before, met.last ran stepped⟩
  · rintro ⟨met, last⟩ before later after split reached shown reaches further output' moved
    rcases List.eq_nil_or_concat after with rfl | ⟨earlier, final, rfl⟩
    · obtain ⟨rfl, same⟩ := List.append_inj' split rfl
      cases same
      rw [reaches] at ran
      cases ran
      exact last
    · have cut : inputs ++ [input] = (before ++ later :: earlier) ++ [final] := by simpa using split
      obtain ⟨rfl, _⟩ := List.append_inj' cut rfl
      exact met before later earlier rfl reached shown reaches further output' moved

/-- The invariant rule for runs whose steps all meet a condition. -/
theorem run_invariant_of_meets {I : σ → List ι → List ο → Prop} (base : I start [] [])
    (preserved : ∀ {before inputs outputs input after output}, I before inputs outputs →
      C before input → step before input = some (after, output) →
      I after (inputs ++ [input]) (outputs ++ [output]))
    (met : Meets step C start inputs)
    (ran : run step start inputs = some (final, outputs)) : I final inputs outputs := by
  induction inputs using List.reverseRecOn generalizing final outputs with
  | nil =>
    cases ran
    exact base
  | append_singleton inputs input ih =>
    obtain ⟨middle, early, output, before, stepped, rfl⟩ := run_snoc_iff.mp ran
    exact preserved (ih met.before before) (met.last before stepped) stepped

/-- `P` holds in every state the run passes through. -/
def Always (step : Step σ ι ο) (P : σ → Prop) (start : σ) (inputs : List ι) : Prop :=
  ∀ before after, inputs = before ++ after →
    ∀ middle shown, run step start before = some (middle, shown) → P middle

/-- If `C` is what a step needs to keep `P`, and a step without it loses `P`, then
the runs on which `P` holds throughout are those whose steps all meet `C`. Both may
use an invariant of all runs. -/
theorem always_iff_meets_of_invariant {I : σ → Prop} (first : I start)
    (invariant : ∀ {before input after output}, I before →
      step before input = some (after, output) → I after)
    (base : P start)
    (kept : ∀ {before input after output}, I before → P before → C before input →
      step before input = some (after, output) → P after)
    (lost : ∀ {before input after output}, I before → P before → ¬ C before input →
      step before input = some (after, output) → ¬ P after) :
    Always step P start inputs ↔ Meets step C start inputs := by
  constructor
  · rintro always before input after rfl middle shown ran next output stepped
    by_contra unmet
    have sound : I middle := run_state_invariant first invariant ran
    have holds : P middle := always before (input :: after) rfl middle shown ran
    exact lost sound holds unmet stepped (always (before ++ [input]) after (by simp) next (shown ++ [output])
      (run_snoc_iff.mpr ⟨middle, shown, output, ran, stepped, rfl⟩))
  · rintro met before after rfl middle shown ran
    have both := run_invariant_of_meets (I := fun state _ _ => I state ∧ P state) ⟨first, base⟩
      (fun ⟨sound, holds⟩ met stepped => ⟨invariant sound stepped, kept sound holds met stepped⟩) met.before ran
    exact both.2

theorem always_iff_meets (base : P start)
    (kept : ∀ {before input after output}, P before → C before input →
      step before input = some (after, output) → P after)
    (lost : ∀ {before input after output}, P before → ¬ C before input →
      step before input = some (after, output) → ¬ P after) :
    Always step P start inputs ↔ Meets step C start inputs :=
  always_iff_meets_of_invariant (I := fun _ => True) trivial (fun _ _ => trivial) base
    (fun _ => kept) (fun _ => lost)

end Runs
