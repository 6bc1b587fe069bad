import Mathlib.Data.List.Induction

/-! The lines of a text. A line ends with a newline; what stands after the last newline is a
line as well, but one that an append goes on with. -/
namespace TextLines

section

variable {α : Type*} {newline c : α} {text : List α}

/-- The text is empty, or its last line has ended. -/
def Ended (newline : α) (text : List α) : Prop := ∀ c, text.getLast? = some c → c = newline

theorem ended_nil : Ended newline [] := by
  intro c last
  cases last

theorem ended_snoc_iff : Ended newline (text ++ [c]) ↔ c = newline := by
  rw [Ended, List.getLast?_concat]
  constructor
  · exact fun ended => ended c rfl
  · rintro same d last
    cases last
    exact same

theorem ended_cons_iff {d : α} : Ended newline (c :: d :: text) ↔ Ended newline (d :: text) := by
  rw [Ended, Ended, List.getLast?_cons_cons]

/-- A last line that has not ended. -/
theorem unfinished_line (unfinished : ¬Ended newline text) :
    ∃ whole line, text = whole ++ line ∧ Ended newline whole ∧ line ≠ [] ∧ newline ∉ line := by
  induction text using List.reverseRecOn with
  | nil => exact absurd ended_nil unfinished
  | append_singleton text c ih =>
    have other : newline ≠ c := fun same => unfinished (ended_snoc_iff.mpr same.symm)
    by_cases ended : Ended newline text
    · exact ⟨text, [c], rfl, ended, List.cons_ne_nil _ _, by simpa using other⟩
    · obtain ⟨whole, line, rfl, ends, some_, plain⟩ := ih ended
      refine ⟨whole, line ++ [c], List.append_assoc _ _ _, ends, by simp, ?_⟩
      rw [List.mem_append, List.mem_singleton]
      exact not_or.mpr ⟨plain, other⟩

end

section

variable {α : Type*} [DecidableEq α] {newline c : α} {text more line : List α}

/-- The lines of a text, without the newlines. -/
def lines (newline : α) : List α → List (List α)
  | [] => []
  | c :: text =>
    if c = newline then [] :: lines newline text
    else
      match lines newline text with
      | [] => [[c]]
      | line :: rest => (c :: line) :: rest

theorem lines_ne_nil (c : α) (text : List α) : lines newline (c :: text) ≠ [] := by
  rw [lines]
  split
  · exact List.cons_ne_nil _ _
  · split <;> exact List.cons_ne_nil _ _

/-- What is appended to a text whose last line has ended makes lines of its own. -/
theorem lines_append (ended : Ended newline text) :
    lines newline (text ++ more) = lines newline text ++ lines newline more := by
  induction text with
  | nil => rfl
  | cons c text ih =>
    rw [List.cons_append, lines, lines]
    cases text with
    | nil =>
      have last : c = newline := ended c rfl
      rw [if_pos last, if_pos last]
      rfl
    | cons d text =>
      rw [ih (ended_cons_iff.mp ended)]
      by_cases ends : c = newline
      · rw [if_pos ends, if_pos ends, List.cons_append]
      · rw [if_neg ends, if_neg ends]
        cases first : lines newline (d :: text) with
        | nil => exact absurd first (lines_ne_nil d text)
        | cons line rest => rfl

theorem lines_line (plain : newline ∉ line) : lines newline (line ++ newline :: more) = line :: lines newline more := by
  induction line with
  | nil => rw [List.nil_append, lines, if_pos rfl]
  | cons c line ih =>
    obtain ⟨first, later⟩ := not_or.mp (List.mem_cons.not.mp plain)
    rw [List.cons_append, lines, if_neg (Ne.symm first), ih later]

theorem lines_unfinished (plain : newline ∉ line) (some_ : line ≠ []) : lines newline line = [line] := by
  induction line with
  | nil => exact absurd rfl some_
  | cons c line ih =>
    obtain ⟨first, later⟩ := not_or.mp (List.mem_cons.not.mp plain)
    rw [lines, if_neg (Ne.symm first)]
    cases line with
    | nil => rfl
    | cons d line => rw [ih later (List.cons_ne_nil _ _)]

/-- Each record on a line of its own. -/
def records (newline : α) (list : List (List α)) : List α := list.flatMap (· ++ [newline])

theorem lines_records {list : List (List α)} (plain : ∀ record ∈ list, newline ∉ record) :
    lines newline (records newline list) = list := by
  induction list with
  | nil => rfl
  | cons record list ih =>
    obtain ⟨here, later⟩ := List.forall_mem_cons.mp plain
    have next : records newline (record :: list) = record ++ newline :: records newline list := by
      rw [records, List.flatMap_cons, List.append_assoc, List.singleton_append, records]
    rw [next, lines_line here, ih later]

/-- Records that are appended come after the lines of the text exactly when its last line has
ended; otherwise that line goes on with the first of them. -/
theorem lines_append_records_iff {list : List (List α)} (plain : ∀ record ∈ list, newline ∉ record) :
    lines newline (text ++ records newline list) = lines newline text ++ list ↔ list = [] ∨ Ended newline text := by
  constructor
  · intro same
    by_contra other
    obtain ⟨some_, unfinished⟩ := not_or.mp other
    obtain ⟨whole, line, rfl, ended, nonempty, inside⟩ := unfinished_line unfinished
    cases list with
    | nil => exact some_ rfl
    | cons record list =>
      obtain ⟨here, later⟩ := List.forall_mem_cons.mp plain
      have merged : line ++ records newline (record :: list) = (line ++ record) ++ newline :: records newline list := by
        rw [records, List.flatMap_cons, records]
        simp
      have across : newline ∉ line ++ record := by
        rw [List.mem_append]
        exact not_or.mpr ⟨inside, here⟩
      rw [List.append_assoc, lines_append ended, lines_append ended, merged, lines_line across, lines_records later,
        lines_unfinished inside nonempty] at same
      have size := congrArg List.length same
      simp at size
  · rintro (rfl | ended)
    · rw [records, List.flatMap_nil, List.append_nil, List.append_nil]
    · rw [lines_append ended, lines_records plain]

end

end TextLines
