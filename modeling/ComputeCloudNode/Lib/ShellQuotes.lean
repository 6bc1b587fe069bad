import ComputeCloudNode.Lib.ShellWords

/-! What the quotes in a text cost. A single quote of the text either opens or closes a
quotation, or it stands in one of the words, and then another character of the text is there
to quote it. So words that are only wrapped in single quotes are read back exactly when none
of them has a single quote. -/
namespace ShellWords

variable {mode : Quote} {begun : Option Word} {text : List Char} {list : List Word} {c : Char}

/-- The single quotes in a text. -/
def quotes (text : List Char) : Nat := text.count '\''

@[simp] theorem quotes_nil : quotes [] = 0 := rfl

theorem quotes_self : quotes ('\'' :: text) = quotes text + 1 := List.count_cons_self

theorem quotes_other (other : c ≠ '\'') : quotes (c :: text) = quotes text := List.count_cons_of_ne other

theorem quotes_append (first second : List Char) : quotes (first ++ second) = quotes first + quotes second :=
  List.count_append

theorem quotes_reverse (text : List Char) : quotes text.reverse = quotes text := List.count_reverse

/-- Every character of the words, every quote around them and every blank between two words
is a character of the text, and one more quotes a single quote that the rest of the text
puts into a word, or closes the double quotes. -/
def Accounted (mode : Quote) (begun : Word) (text : List Char) (list : List Word) : Prop :=
  let cost := list.flatten.length + quotes text + quotes begun + list.length
  let given := text.length + begun.length + quotes list.flatten + 1
  cost ≤ given ∧ (mode = .double ∨ quotes begun < quotes list.flatten → cost < given)

section

variable {word : Word} {other : Quote} {d : Char}

/-- A character goes into the word. -/
theorem Accounted.char (account : Accounted mode (c :: word) text list) (plain : mode = .double ∨ c ≠ '\'') :
    Accounted mode word (c :: text) list := by
  unfold Accounted at account ⊢
  rw [List.length_cons] at account ⊢
  by_cases quote : c = '\''
  · subst quote
    have double : mode = .double := plain.resolve_right fun other => other rfl
    simp only [quotes_self, double, true_or, forall_const] at account ⊢
    omega
  · rw [quotes_other quote] at account ⊢
    exact ⟨by omega, fun strict => by have := account.2 strict; omega⟩

/-- A character that is no single quote is dropped. -/
theorem Accounted.drop (account : Accounted other word text list) (plain : c ≠ '\'') :
    Accounted mode word (c :: text) list := by
  unfold Accounted at account ⊢
  rw [quotes_other plain, List.length_cons]
  exact ⟨by omega, fun _ => by omega⟩

/-- A character goes into the word, and the one before it is dropped. -/
theorem Accounted.escaped (account : Accounted mode (d :: word) text list) (plain : c ≠ '\'') :
    Accounted mode word (c :: d :: text) list := by
  unfold Accounted at account ⊢
  rw [quotes_other plain, List.length_cons, List.length_cons]
  by_cases quote : d = '\''
  · subst quote
    simp only [quotes_self, List.length_cons] at account ⊢
    exact ⟨by omega, fun _ => by omega⟩
  · rw [quotes_other quote, List.length_cons] at account
    rw [quotes_other quote]
    exact ⟨by omega, fun _ => by omega⟩

/-- A single quote opens or closes a quotation. -/
theorem Accounted.toggle (account : Accounted other word text list) (single : mode ≠ .double) :
    Accounted mode word ('\'' :: text) list := by
  unfold Accounted at account ⊢
  rw [quotes_self, List.length_cons]
  exact ⟨by omega, fun strict => by have := account.2 (.inr (strict.resolve_left single)); omega⟩

end

theorem split_account (read : split mode begun text = some list) : Accounted mode (begun.getD []) text list := by
  induction mode, begun, text using split.induct generalizing list with
  | case1 begun =>
    cases read
    cases begun with
    | none => simp [Accounted]
    | some word => simp [Accounted, quotes_reverse]
  | case2 begun c rest blank ih =>
    rw [split.eq_def] at read
    simp only [if_pos blank, Option.map_eq_some_iff] at read
    obtain ⟨later, read, rfl⟩ := read
    have account := ih read
    have plain : c ≠ '\'' := by rcases blank with rfl | rfl <;> decide
    cases begun with
    | none => exact account.drop plain
    | some word =>
      simp only [Accounted, quotes_other plain, Option.toList_some, List.map_cons, List.map_nil,
        List.singleton_append, List.flatten_cons, List.length_append, List.length_reverse, quotes_append,
        quotes_reverse, List.length_cons, Option.getD_some, Option.getD_none, quotes_nil, List.length_nil,
        reduceCtorEq, false_or] at account ⊢
      omega
  | case3 begun rest _ ih =>
    rw [split_opens] at read
    exact (ih read).toggle (by decide)
  | case4 begun rest _ _ ih =>
    rw [split.eq_def] at read
    exact (ih read).drop (by decide)
  | case6 begun rest _ _ _ ih =>
    rw [split.eq_def] at read
    have line : Accounted .none (begun.getD []) ('\n' :: rest) list := (ih read).drop (by decide)
    exact line.drop (by decide)
  | case7 begun d rest line _ _ _ ih =>
    rw [split.eq_def] at read
    simp only [if_neg line] at read
    exact (ih read).escaped (by decide)
  | case9 begun c rest blank single double backslash means ih =>
    rw [split.eq_def] at read
    simp only [if_neg blank, if_neg single, if_neg double, if_neg backslash, if_neg means] at read
    exact (ih read).char (.inr single)
  | case11 begun rest ih =>
    rw [split.eq_def] at read
    exact (ih read).toggle (by decide)
  | case12 begun c rest single ih =>
    rw [split.eq_def] at read
    simp only [if_neg single] at read
    exact (ih read).char (.inr single)
  | case14 begun rest ih =>
    rw [split.eq_def] at read
    exact (ih read).drop (by decide)
  | case17 begun rest _ _ ih =>
    rw [split.eq_def] at read
    have line : Accounted .none (begun.getD []) ('\n' :: rest) list := (ih read).drop (by decide)
    exact line.drop (by decide)
  | case18 begun d rest line kept _ _ ih =>
    rw [split.eq_def] at read
    simp only [if_neg line, if_pos kept] at read
    exact (ih read).escaped (by decide)
  | case19 begun d rest line kept _ _ ih =>
    rw [split.eq_def] at read
    simp only [if_neg line, if_neg kept] at read
    exact ((ih read).char (.inl rfl)).char (.inl rfl)
  | case20 begun c rest double means backslash ih =>
    rw [split.eq_def] at read
    simp only [if_neg double, if_neg means, if_neg backslash] at read
    exact (ih read).char (.inl rfl)
  | case8 begun c rest blank single double backslash means =>
    rw [split.eq_def] at read
    simp only [if_neg blank, if_neg single, if_neg double, if_neg backslash, if_pos means] at read
    cases read
  | case15 begun c rest double means =>
    rw [split.eq_def] at read
    simp only [if_neg double, if_pos means] at read
    cases read
  | _ => cases read

/-! ### Wrapped words -/

/-- A word between single quotes, as it is. -/
def wrap (word : Word) : List Char := '\'' :: word ++ ['\'']

def wrapAll (words : List Word) : List Char := [' '].intercalate (words.map wrap)

theorem split_wrap {word : Word} (plain : '\'' ∉ word) (rest : List Char) :
    split .none none (wrap word ++ rest) = split .none (some word.reverse) rest := by
  have same : escape word = word := by
    rw [escape]
    have each : ∀ c ∈ word, (if c = '\'' then "'\"'\"'".toList else [c]) = [c] := by
      intro c member
      apply if_neg
      rintro rfl
      exact plain member
    rw [List.flatMap_congr each, List.flatMap_singleton']
  have opened : wrap word ++ rest = '\'' :: (escape word ++ '\'' :: rest) := by simp [wrap, same]
  rw [opened, split_opens, Option.getD_none, split_escape, List.append_nil]

theorem wrapAll_cons (word next : Word) (list : List Word) :
    wrapAll (word :: next :: list) = wrap word ++ ' ' :: wrapAll (next :: list) := by
  simp [wrapAll]

/-- The text of wrapped words has two quotes for each of them, and a blank between two. -/
theorem wrapAll_size {list : List Word} (some_ : list ≠ []) :
    (wrapAll list).length + 1 = list.flatten.length + 3 * list.length ∧
      quotes (wrapAll list) = quotes list.flatten + 2 * list.length := by
  have wrapped : ∀ word : Word, (wrap word).length = word.length + 2 ∧ quotes (wrap word) = quotes word + 2 := by
    intro word
    constructor
    · simp [wrap]
    · rw [wrap, List.cons_append, quotes_self, quotes_append, quotes_self, quotes_nil]
  induction list with
  | nil => exact absurd rfl some_
  | cons word list ih =>
    obtain ⟨length, quoted⟩ := wrapped word
    cases list with
    | nil =>
      have alone : wrapAll [word] = wrap word := by simp [wrapAll]
      rw [alone, length, quoted, List.flatten_singleton, List.length_singleton]
      exact ⟨rfl, rfl⟩
    | cons next list =>
      obtain ⟨size, rest⟩ := ih (List.cons_ne_nil _ _)
      have blank : ' ' ≠ '\'' := by decide
      rw [wrapAll_cons, List.length_append, List.length_cons, length, quotes_append, quoted, quotes_other blank, rest,
        List.flatten_cons, List.length_append, quotes_append, List.length_cons (a := word)]
      constructor <;> omega

/-- Wrapped words are read back exactly when there is no single quote in them. -/
theorem words_wrapAll_iff (list : List Word) : words (wrapAll list) = some list ↔ ∀ word ∈ list, '\'' ∉ word := by
  constructor
  · intro read word member quoted
    obtain ⟨size, wrapped⟩ := wrapAll_size (List.ne_nil_of_mem member)
    obtain ⟨_, strict⟩ := split_account read
    have some_ : 0 < quotes list.flatten :=
      List.count_pos_iff.mpr (List.mem_flatten.mpr ⟨word, member, quoted⟩)
    have spends := strict (.inr some_)
    simp only [Option.getD_none, quotes_nil, List.length_nil] at spends
    omega
  · intro plain
    exact words_intercalate fun word member => split_wrap (plain word member)

end ShellWords
