import Mathlib.Data.List.Basic

/-! And-or lists of a POSIX shell. `&&` and `||` have the same precedence and associate to
the left, so a list is evaluated from left to right: a command after `&&` is executed when
the exit status so far is zero, one after `||` when it is not, and the exit status is that
of the last command that was executed. -/
namespace AndOrLists

variable {κ : Type*}

inductive Operator
  | and
  | or
  deriving DecidableEq

/-- A command after this operator is executed; `zero` says that the exit status is zero. -/
def Operator.runs : Operator → Bool → Bool
  | .and, zero => zero
  | .or, zero => !zero

def Operator.text : Operator → String
  | .and => " && "
  | .or => " || "

/-- The commands of a list, each with the operator before it. The first command has none,
and is always executed; `&&` stands for that. -/
abbrev AndOrList (κ : Type*) := List (Operator × κ)

/-- The text of a list. -/
def render (text : κ → String) : AndOrList κ → String
  | [] => ""
  | [(_, command)] => text command
  | (_, command) :: (operator, next) :: rest => text command ++ operator.text ++ render text ((operator, next) :: rest)

/-- Whether the exit status is zero after these commands, given whether it was before. -/
def status (succeeds : κ → Bool) : Bool → AndOrList κ → Bool
  | zero, [] => zero
  | zero, (operator, command) :: rest => status succeeds (if operator.runs zero then succeeds command else zero) rest

/-- The commands that are executed. -/
def executed (succeeds : κ → Bool) : Bool → AndOrList κ → List κ
  | _, [] => []
  | zero, (operator, command) :: rest =>
    if operator.runs zero then command :: executed succeeds (succeeds command) rest else executed succeeds zero rest

section

variable {succeeds : κ → Bool} {zero : Bool} {command : κ} {list first second : AndOrList κ} {text : κ → String}

theorem status_append : status succeeds zero (first ++ second) = status succeeds (status succeeds zero first) second := by
  induction first generalizing zero with
  | nil => rfl
  | cons entry first ih => exact ih

theorem executed_append : executed succeeds zero (first ++ second) =
    executed succeeds zero first ++ executed succeeds (status succeeds zero first) second := by
  induction first generalizing zero with
  | nil => rfl
  | cons entry first ih =>
    obtain ⟨operator, command⟩ := entry
    rw [List.cons_append, executed, executed, status]
    by_cases runs : operator.runs zero
    · rw [if_pos runs, if_pos runs, if_pos runs, ih, List.cons_append]
    · rw [if_neg runs, if_neg runs, if_neg runs, ih]

theorem executed_mem (ran : command ∈ executed succeeds zero list) : ∃ operator, (operator, command) ∈ list := by
  induction list generalizing zero with
  | nil => cases ran
  | cons entry rest ih =>
    obtain ⟨operator, first⟩ := entry
    rw [executed] at ran
    split at ran
    · rcases List.mem_cons.mp ran with rfl | later
      · exact ⟨operator, List.mem_cons_self⟩
      · obtain ⟨other, member⟩ := ih later
        exact ⟨other, List.mem_cons_of_mem _ member⟩
    · obtain ⟨other, member⟩ := ih ran
      exact ⟨other, List.mem_cons_of_mem _ member⟩

/-- After `|| c`, where `c` always succeeds, the exit status is zero. -/
theorem status_rescued (sure : succeeds command) : status succeeds zero [(.or, command)] = true := by
  cases zero with
  | true => rfl
  | false => exact sure

/-- Lists that are joined by ` && `. -/
theorem render_append (some_ : first ≠ []) : render text (first ++ (.and, command) :: second) =
    render text first ++ " && " ++ render text ((.and, command) :: second) := by
  induction first with
  | nil => exact absurd rfl some_
  | cons entry first ih =>
    cases first with
    | nil => rfl
    | cons next first =>
      have rest := ih (List.cons_ne_nil _ _)
      rw [List.cons_append] at rest
      rw [List.cons_append, List.cons_append, render, rest, render, String.append_assoc, String.append_assoc,
        String.append_assoc, String.append_assoc, String.append_assoc]

/-- The list begins with a command. -/
def Starts (list : AndOrList κ) : Prop := ∃ command rest, list = (.and, command) :: rest

theorem render_flatten {lists : List (AndOrList κ)} (starts : ∀ list ∈ lists, Starts list) :
    render text lists.flatten = " && ".intercalate (lists.map (render text)) := by
  induction lists with
  | nil => exact String.intercalate_nil.symm
  | cons list lists ih =>
    obtain ⟨here, later⟩ := List.forall_mem_cons.mp starts
    cases lists with
    | nil => rw [List.flatten_cons, List.flatten_nil, List.append_nil, List.map_singleton, String.intercalate_singleton]
    | cons next lists =>
      obtain ⟨command, rest, rfl⟩ := here
      obtain ⟨after, others, starting⟩ := (List.forall_mem_cons.mp later).1
      have joined : (next :: lists).flatten = (.and, after) :: (others ++ lists.flatten) := by
        rw [List.flatten_cons, starting, List.cons_append]
      rw [List.map_cons, String.intercalate_cons_of_ne_nil (by simp), ← ih later, List.flatten_cons, joined,
        render_append (List.cons_ne_nil _ _)]

end

end AndOrLists
