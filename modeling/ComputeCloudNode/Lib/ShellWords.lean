import Mathlib.Data.List.Basic

/-! How a POSIX shell splits the arguments of a command into words, and Python's
`shlex.quote` and `shlex.join`, which write words so that they are read back. Text
in which a character outside quotes may mean something to the shell is not split
at all. -/
namespace ShellWords

abbrev Word := List Char

inductive Quote
  | none
  | single
  | double
  deriving DecidableEq

/-- Outside quotes these may be an operator, an expansion, a pattern or a comment. -/
def special (c : Char) : Bool :=
  c ∈ ['\n', ';', '&', '|', '<', '>', '(', ')', '$', '`', '*', '?', '[', '#', '~', '!', '{', '}']

/-- Split from a point inside or outside quotes; `word` is the word so far, its last
character first, if one has begun. -/
def split : Quote → Option Word → List Char → Option (List Word)
  | .none, word, [] => some (word.toList.map List.reverse)
  | .none, word, c :: rest =>
    if c = ' ' ∨ c = '\t' then (split .none none rest).map (word.toList.map List.reverse ++ ·)
    else if c = '\'' then split .single (some (word.getD [])) rest
    else if c = '"' then split .double (some (word.getD [])) rest
    else if c = '\\' then
      match rest with
      | [] => none
      | d :: rest => if d = '\n' then split .none word rest else split .none (some (d :: word.getD [])) rest
    else if special c then none
    else split .none (some (c :: word.getD [])) rest
  | .single, _, [] => none
  | .single, word, c :: rest =>
    if c = '\'' then split .none word rest else split .single (some (c :: word.getD [])) rest
  | .double, _, [] => none
  | .double, word, c :: rest =>
    if c = '"' then split .none word rest
    else if c = '$' ∨ c = '`' then none
    else if c = '\\' then
      match rest with
      | [] => none
      | d :: rest =>
        if d = '\n' then split .double word rest
        else if d = '$' ∨ d = '`' ∨ d = '"' ∨ d = '\\' then split .double (some (d :: word.getD [])) rest
        else split .double (some (d :: '\\' :: word.getD [])) rest
    else split .double (some (c :: word.getD [])) rest

/-- The words of a text. -/
def words (text : List Char) : Option (List Word) := split .none none text

/-- What `shlex.quote` leaves as it is. -/
def safe (c : Char) : Bool :=
  (c.isAlphanum || c == '_') || c ∈ ['@', '%', '+', '=', ':', ',', '.', '/', '-']

/-- A single quote ends the quotes, is put between double quotes, and opens them again. -/
def escape (word : Word) : List Char := word.flatMap fun c => if c = '\'' then "'\"'\"'".toList else [c]

/-- `shlex.quote`. -/
def quote (word : Word) : List Char :=
  if word = [] then "''".toList
  else if word.all safe then word
  else '\'' :: escape word ++ ['\'']

/-- `shlex.join`. -/
def join (words : List Word) : List Char := [' '].intercalate (words.map quote)

example : join ["/init".toList, "it's".toList] = "/init 'it'\"'\"'s'".toList := by decide

variable {word : Word} {c : Char}

theorem ne_of_safe {d : Char} (plain : safe c) (other : safe d = false) : c ≠ d := by
  rintro rfl
  rw [plain] at other
  cases other

theorem safe_plain (plain : safe c) :
    ¬ (c = ' ' ∨ c = '\t') ∧ c ≠ '\'' ∧ c ≠ '"' ∧ c ≠ '\\' ∧ special c = false := by
  refine ⟨?_, ne_of_safe plain rfl, ne_of_safe plain rfl, ne_of_safe plain rfl, ?_⟩
  · rintro (space | tab)
    · exact ne_of_safe plain rfl space
    · exact ne_of_safe plain rfl tab
  · rw [Bool.eq_false_iff]
    intro means
    have outside : safe c = false := by
      simp only [special, List.mem_cons, List.not_mem_nil, or_false, decide_eq_true_eq] at means
      rcases means with rfl | rfl | rfl | rfl | rfl | rfl | rfl | rfl | rfl | rfl | rfl | rfl | rfl | rfl | rfl | rfl | rfl | rfl <;>
        rfl
    exact ne_of_safe plain outside rfl

theorem split_none_cons (begun : Option Word) (c : Char) (rest : List Char) :
    split .none begun (c :: rest) =
      if c = ' ' ∨ c = '\t' then (split .none none rest).map (begun.toList.map List.reverse ++ ·)
      else if c = '\'' then split .single (some (begun.getD [])) rest
      else if c = '"' then split .double (some (begun.getD [])) rest
      else if c = '\\' then
        match rest with
        | [] => none
        | d :: rest => if d = '\n' then split .none begun rest else split .none (some (d :: begun.getD [])) rest
      else if special c then none
      else split .none (some (c :: begun.getD [])) rest := by
  rw [split.eq_def]

theorem split_single_cons (word : Option Word) (c : Char) (rest : List Char) :
    split .single word (c :: rest) =
      if c = '\'' then split .none word rest else split .single (some (c :: word.getD [])) rest := rfl

theorem split_none_nil (begun : Option Word) : split .none begun [] = some (begun.toList.map List.reverse) := rfl

theorem split_safe (plain : ∀ c ∈ word, safe c) (some_ : word ≠ []) (begun : Option Word) (rest : List Char) :
    split .none begun (word ++ rest) = split .none (some (word.reverse ++ begun.getD [])) rest := by
  induction word generalizing begun with
  | nil => exact absurd rfl some_
  | cons c word ih =>
    obtain ⟨here, later⟩ := List.forall_mem_cons.mp plain
    obtain ⟨blank, single, double, backslash, means⟩ := safe_plain here
    rw [List.cons_append, split_none_cons]
    simp only [if_neg blank, if_neg single, if_neg double, if_neg backslash, means, Bool.false_eq_true, if_false]
    cases word with
    | nil => rfl
    | cons d word =>
      rw [ih later (by simp)]
      simp

theorem split_blank (begun : Option Word) (rest : List Char) :
    split .none begun (' ' :: rest) = (split .none none rest).map (begun.toList.map List.reverse ++ ·) := by
  rw [split_none_cons]
  rfl

theorem split_opens (begun : Option Word) (rest : List Char) :
    split .none begun ('\'' :: rest) = split .single (some (begun.getD [])) rest := by
  rw [split_none_cons]
  rfl

/-- A single quote between double quotes is itself. -/
theorem split_quoted_quote (begun : Word) (rest : List Char) :
    split .none (some begun) ('"' :: '\'' :: '"' :: '\'' :: rest) = split .single (some ('\'' :: begun)) rest := by
  rw [split_none_cons]
  simp [split, split_opens]

theorem split_escape (begun rest : List Char) :
    split .single (some begun) (escape word ++ '\'' :: rest) = split .none (some (word.reverse ++ begun)) rest := by
  induction word generalizing begun with
  | nil =>
    rw [escape, List.flatMap_nil, List.nil_append, split_single_cons, if_pos rfl]
    rfl
  | cons c word ih =>
    have next : escape (c :: word) = (if c = '\'' then "'\"'\"'".toList else [c]) ++ escape word := by
      rw [escape, List.flatMap_cons, escape]
    rw [next]
    by_cases here : c = '\''
    · subst here
      have opened : ("'\"'\"'".toList ++ escape word) ++ '\'' :: rest =
          '\'' :: '"' :: '\'' :: '"' :: '\'' :: (escape word ++ '\'' :: rest) := rfl
      rw [if_pos rfl, opened, split_single_cons, if_pos rfl, split_quoted_quote, ih]
      simp
    · rw [if_neg here, List.append_assoc, List.singleton_append, split_single_cons, if_neg here, Option.getD_some, ih]
      simp

/-- A quoted word is read as the word. -/
theorem split_quote (word : Word) (rest : List Char) :
    split .none none (quote word ++ rest) = split .none (some word.reverse) rest := by
  rw [quote]
  by_cases empty : word = []
  · subst empty
    rfl
  · rw [if_neg empty]
    by_cases plain : word.all safe
    · rw [if_pos plain, split_safe (List.all_eq_true.mp plain) empty, Option.getD_none, List.append_nil]
    · have opened : ('\'' :: escape word ++ ['\'']) ++ rest = '\'' :: (escape word ++ '\'' :: rest) := by simp
      rw [if_neg plain, opened, split_opens, Option.getD_none, split_escape, List.append_nil]

/-- Words that are written so that each is read as itself are read back from their line. -/
theorem words_intercalate {write : Word → List Char} {list : List Word}
    (reads : ∀ word ∈ list, ∀ rest, split .none none (write word ++ rest) = split .none (some word.reverse) rest) :
    words ([' '].intercalate (list.map write)) = some list := by
  induction list with
  | nil => rfl
  | cons word list ih =>
    obtain ⟨here, later⟩ := List.forall_mem_cons.mp reads
    cases list with
    | nil =>
      have alone : [' '].intercalate ([word].map write) = write word ++ [] := by simp
      rw [words, alone, here, split_none_nil]
      simp
    | cons next list =>
      have more : [' '].intercalate ((word :: next :: list).map write) =
          write word ++ ' ' :: [' '].intercalate ((next :: list).map write) := by
        simp
      have rest := ih later
      rw [words] at rest
      rw [words, more, here, split_blank, rest]
      simp

/-- `shlex.join` is read back word by word. -/
theorem words_join (list : List Word) : words (join list) = some list :=
  words_intercalate fun word _ => split_quote word

end ShellWords
