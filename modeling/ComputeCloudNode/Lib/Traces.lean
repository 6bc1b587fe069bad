import Mathlib.Data.List.Basic

/-! Past-time properties of finite traces. `Since p q` says that some event of
the trace satisfies `p` and every later one `q`; `Each P` says that every event
stands in the relation `P` to the events before it. Both are computed one event
at a time by their `_snoc` lemmas, which is the form an invariant of a run needs. -/
namespace Traces

variable {ε : Type*} {p q : ε → Prop} {P : List ε → ε → Prop} {trace : List ε} {last : ε}

/-- Some event satisfied `p`, and since then every event satisfied `q`. -/
def Since (p q : ε → Prop) (trace : List ε) : Prop :=
  ∃ early event late, trace = early ++ event :: late ∧ p event ∧ ∀ later ∈ late, q later

@[simp] theorem not_since_nil : ¬ Since p q [] := by
  rintro ⟨early, event, late, split, _⟩
  simp at split

theorem since_snoc : Since p q (trace ++ [last]) ↔ p last ∨ (q last ∧ Since p q trace) := by
  constructor
  · rintro ⟨early, event, late, split, hit, after⟩
    rcases List.eq_nil_or_concat late with rfl | ⟨late, final, rfl⟩
    · obtain ⟨rfl, same⟩ := List.append_inj' split rfl
      obtain rfl := List.singleton_inj.mp same
      exact .inl hit
    · have moved : trace ++ [last] = (early ++ event :: late) ++ [final] := by simpa using split
      obtain ⟨rfl, same⟩ := List.append_inj' moved rfl
      obtain rfl := List.singleton_inj.mp same
      exact .inr ⟨after last (by simp), early, event, late, rfl, hit,
        fun later member => after later (by simp [member])⟩
  · rintro (hit | ⟨stays, early, event, late, rfl, hit, after⟩)
    · exact ⟨trace, last, [], rfl, hit, by simp⟩
    · refine ⟨early, event, late ++ [last], by simp, hit, ?_⟩
      intro later member
      rcases List.mem_append.mp member with old | new
      · exact after later old
      · rwa [List.mem_singleton.mp new]

/-- Every event is related to the events before it. -/
def Each (P : List ε → ε → Prop) (trace : List ε) : Prop :=
  ∀ early event late, trace = early ++ event :: late → P early event

@[simp] theorem each_nil : Each P [] := by
  intro early event late split
  simp at split

theorem each_snoc : Each P (trace ++ [last]) ↔ Each P trace ∧ P trace last := by
  constructor
  · intro held
    exact ⟨fun early event late split => held early event (late ++ [last]) (by simp [split]),
      held trace last [] rfl⟩
  · rintro ⟨held, final⟩ early event late split
    rcases List.eq_nil_or_concat late with rfl | ⟨late, tail, rfl⟩
    · obtain ⟨rfl, same⟩ := List.append_inj' split rfl
      rwa [← List.singleton_inj.mp same]
    · have moved : trace ++ [last] = (early ++ event :: late) ++ [tail] := by simpa using split
      obtain ⟨rfl, _⟩ := List.append_inj' moved rfl
      exact held early event late rfl

end Traces
