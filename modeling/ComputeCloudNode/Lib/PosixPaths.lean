import Mathlib.Data.List.DropRight

/-! Path strings as Python's `posixpath` treats them: how two are joined, how the
last component is cut off, and the normal form, in which no component is empty, `.`
or, below a root, `..`. Nothing here looks at a file system; a symbolic link may
make a path and its normal form differ. -/
namespace PosixPaths

abbrev Path := List Char

/-- The length of the root that `splitroot` cuts off. POSIX leaves open what two
slashes mean; any other number counts as one. -/
def rootSlashes (path : Path) : Nat :=
  match path.takeWhile (· == '/') with
  | [] => 0
  | [_, _] => 2
  | _ => 1

/-- `join`. -/
def join (path other : Path) : Path :=
  if other.head? = some '/' then other
  else if path = [] ∨ path.getLast? = some '/' then path ++ other
  else path ++ '/' :: other

/-- The second part of `split`. -/
def basename (path : Path) : Path := path.rtakeWhile (· != '/')

/-- `dirname`, the first part of `split`. -/
def dirname (path : Path) : Path :=
  let head := path.rdropWhile (· != '/')
  if head.all (· == '/') then head else head.rdropWhile (· == '/')

/-- The components that are not empty. -/
def names (path : Path) : List Path := (path.splitOn '/').filter (· ≠ [])

/-- What `normpath` does with one component; the components so far are a stack. -/
def push (rooted : Bool) (stack : List Path) (name : Path) : List Path :=
  if name = ['.'] then stack
  else if name ≠ ['.', '.'] ∨ (!rooted ∧ stack = []) ∨ stack.head? = some ['.', '.'] then name :: stack
  else stack.tail

/-- `normpath`, before the root and the components are put together: the slashes of
the root and the components, the last one first. -/
def normalise (path : Path) : Nat × List Path :=
  (rootSlashes path, (names path).foldl (push (rootSlashes path != 0)) [])

/-- A root of slashes and components under it. -/
def rooted (slashes : Nat) (parts : List Path) : Path := List.replicate slashes '/' ++ ['/'].intercalate parts

/-- `normpath`. -/
def normpath (path : Path) : Path :=
  let (slashes, stack) := normalise path
  if rooted slashes stack.reverse = [] then ['.'] else rooted slashes stack.reverse

/-- A path whose normal form is that of the directory or goes on from it. -/
def Inside (directory path : Path) : Prop :=
  (normalise path).1 = (normalise directory).1 ∧ (normalise directory).2 <:+ (normalise path).2

instance (directory path : Path) : Decidable (Inside directory path) := inferInstanceAs (Decidable (_ ∧ _))

/-- A path that a file or a directory can be created under: its last component is a
name, and it has no null character. -/
def Named (path : Path) : Prop :=
  basename path ≠ [] ∧ basename path ≠ ['.'] ∧ basename path ≠ ['.', '.'] ∧ '\x00' ∉ path

instance (path : Path) : Decidable (Named path) := inferInstanceAs (Decidable (_ ∧ _))

/-- A path cut off before one of its slashes, or all of it. -/
def Part (part path : Path) : Prop := path = part ∨ ∃ rest, path = part ++ '/' :: rest

variable {path part directory : Path}

theorem slash_notMem_basename (path : Path) : '/' ∉ basename path := by
  intro member
  simpa using List.mem_rtakeWhile_imp member

@[simp] theorem names_slash (before after : Path) : names (before ++ '/' :: after) = names before ++ names after := by
  rw [names, List.splitOn_append_cons_self, List.filter_append, names, names]

theorem names_slashes {slashes : Path} (all : ∀ c ∈ slashes, c = '/') : names slashes = [] := by
  induction slashes with
  | nil => rfl
  | cons c slashes ih =>
    obtain ⟨rfl, rest⟩ := List.forall_mem_cons.mp all
    have := names_slash [] slashes
    rw [List.nil_append] at this
    rw [this, ih rest]
    rfl

theorem names_of_no_slash {name : Path} (one : '/' ∉ name) (some_ : name ≠ []) : names name = [name] := by
  rw [names, List.splitOn_eq_singleton one, List.filter_singleton]
  simp [some_]

theorem basename_slashes {slashes : Path} (all : ∀ c ∈ slashes, c = '/') : basename slashes = [] := by
  rw [basename, List.rtakeWhile_eq_nil_iff]
  intro some_
  simpa using all _ (List.getLast_mem some_)

theorem dirname_subset (path : Path) : dirname path ⊆ path := by
  intro c member
  apply (List.rdropWhile_prefix (· != '/') path).subset
  rw [dirname] at member
  split at member
  · exact member
  · exact (List.rdropWhile_prefix _ _).subset member

theorem dirname_slashes {slashes : Path} (all : ∀ c ∈ slashes, c = '/') : ∀ c ∈ dirname slashes, c = '/' :=
  fun c member => all c (dirname_subset slashes member)

/-- Only a root ends in slashes: otherwise `dirname` removes those before the last
component. -/
theorem dirname_cases (path : Path) :
    ((∀ c ∈ dirname path, c = '/') ∧ path = dirname path ++ basename path) ∨
      ∃ slashes, (∀ c ∈ slashes, c = '/') ∧ (∃ c, (dirname path).getLast? = some c ∧ c ≠ '/') ∧
        path = dirname path ++ '/' :: slashes ++ basename path := by
  have whole : path.rdropWhile (· != '/') ++ basename path = path := List.rdropWhile_append_rtakeWhile
  by_cases root : (path.rdropWhile (· != '/')).all (· == '/')
  · left
    rw [dirname, if_pos root, whole]
    exact ⟨by simpa using root, rfl⟩
  · right
    have head : dirname path = (path.rdropWhile (· != '/')).rdropWhile (· == '/') := by rw [dirname, if_neg root]
    have parted : dirname path ++ (path.rdropWhile (· != '/')).rtakeWhile (· == '/') = path.rdropWhile (· != '/') := by
      rw [head, List.rdropWhile_append_rtakeWhile]
    have some_ : dirname path ≠ [] := by
      rw [head, Ne, List.rdropWhile_eq_nil_iff]
      simpa using root
    have nonempty : path.rdropWhile (· != '/') ≠ [] := by
      intro nothing
      rw [nothing] at root
      exact root rfl
    have all : ∀ c ∈ (path.rdropWhile (· != '/')).rtakeWhile (· == '/'), c = '/' := fun c member => by
      simpa using List.mem_rtakeWhile_imp member
    have last := List.rdropWhile_last_not (fun c => c != '/') path nonempty
    cases cut : (path.rdropWhile (· != '/')).rtakeWhile (· == '/') with
    | nil =>
      rw [List.rtakeWhile_eq_nil_iff] at cut
      exact absurd (by simpa using last) (cut nonempty)
    | cons c slashes =>
      rw [cut] at all parted
      obtain ⟨rfl, rest⟩ := List.forall_mem_cons.mp all
      refine ⟨slashes, rest, ⟨(dirname path).getLast some_, List.getLast?_eq_getLast_of_ne_nil some_, ?_⟩, ?_⟩
      · have := List.rdropWhile_last_not (fun c => c == '/') _ (head ▸ some_)
        simpa [head] using this
      · rw [parted, whole]

theorem names_split (path : Path) : names path = names (dirname path) ++ names (basename path) := by
  rcases dirname_cases path with ⟨all, whole⟩ | ⟨slashes, all, _, whole⟩
  · rcases List.eq_nil_or_concat (dirname path) with none | ⟨before, c, last⟩
    · conv_lhs => rw [whole, none, List.nil_append]
      rw [none]
      rfl
    · rw [List.concat_eq_append] at last
      obtain rfl : c = '/' := all c (by rw [last]; simp)
      conv_lhs => rw [whole, last, List.append_assoc, List.singleton_append, names_slash]
      rw [last, names_slash]
      simp [names]
  · have flat : dirname path ++ '/' :: slashes ++ basename path = dirname path ++ '/' :: (slashes ++ basename path) := by
      simp
    conv_lhs => rw [whole, flat, names_slash]
    congr 1
    rcases List.eq_nil_or_concat slashes with rfl | ⟨before, c, rfl⟩
    · rfl
    · rw [List.concat_eq_append] at all ⊢
      obtain rfl : c = '/' := all c (by simp)
      rw [List.append_assoc, List.singleton_append, names_slash,
        names_slashes fun c member => all c (List.mem_append_left _ member), List.nil_append]

theorem names_basename (some_ : basename path ≠ []) : names path = names (dirname path) ++ [basename path] := by
  rw [names_split, names_of_no_slash (slash_notMem_basename path) some_]

theorem Named.nonslash (named : Named part) : ∃ c, part.getLast? = some c ∧ c ≠ '/' := by
  have last := named.1
  rw [basename, Ne, List.rtakeWhile_eq_nil_iff] at last
  simp only [bne_iff_ne, ne_eq, not_not, not_forall] at last
  obtain ⟨some_, last⟩ := last
  exact ⟨_, List.getLast?_eq_getLast_of_ne_nil some_, last⟩

theorem Named.not_slashes (named : Named part) : ¬ ∀ c ∈ part, c = '/' := by
  intro all
  obtain ⟨c, last, other⟩ := named.nonslash
  exact other (all c (List.mem_of_getLast? last))

theorem part_self : Part path path := .inl rfl

/-- A part that can be created is a part of every directory above the path, down to
itself. -/
theorem part_dirname (named : Named part) (within : Part part path) (less : path ≠ part) :
    Part part (dirname path) := by
  obtain ⟨rest, rfl⟩ := within.resolve_left less
  rcases dirname_cases (part ++ '/' :: rest) with ⟨all, whole⟩ | ⟨slashes, all, _, whole⟩
  · rcases List.append_eq_append_iff.mp whole with ⟨more, longer, inner⟩ | ⟨more, longer, inner⟩
    · refine absurd (fun c member => all c ?_) named.not_slashes
      rw [longer]
      exact List.mem_append_left _ member
    · refine absurd ?_ (slash_notMem_basename (part ++ '/' :: rest))
      rw [inner]
      simp
  · rw [List.append_assoc] at whole
    rcases List.append_eq_append_iff.mp whole with ⟨more, longer, inner⟩ | ⟨more, longer, inner⟩
    · cases more with
      | nil => exact .inl (by rw [longer, List.append_nil])
      | cons c more =>
        obtain ⟨rfl, _⟩ := List.cons.inj inner
        exact .inr ⟨more, longer⟩
    · rcases List.append_eq_append_iff.mp inner with ⟨extra, _, based⟩ | ⟨extra, slashed, _⟩
      · refine absurd ?_ (slash_notMem_basename (part ++ '/' :: rest))
        rw [based]
        simp
      · rcases List.eq_nil_or_concat more with rfl | ⟨before, c, rfl⟩
        · exact .inl (by rw [← List.append_nil (dirname _), ← longer])
        · obtain ⟨last, ends, other⟩ := named.nonslash
          rw [longer, List.concat_eq_append, ← List.append_assoc, List.getLast?_concat] at ends
          cases ends
          refine absurd ?_ other
          have member : c ∈ '/' :: slashes := by
            rw [slashed]
            simp
          rcases List.mem_cons.mp member with rfl | member
          · rfl
          · exact all c member

theorem part_of_dirname (named : Named part) (within : Part part (dirname path)) : Part part path := by
  rcases dirname_cases path with ⟨all, _⟩ | ⟨slashes, _, _, whole⟩
  · refine absurd (fun c member => all c ?_) named.not_slashes
    rcases within with same | ⟨rest, shape⟩
    · rwa [same]
    · rw [shape]
      exact List.mem_append_left _ member
  · right
    rcases within with same | ⟨rest, shape⟩
    · exact ⟨slashes ++ basename path, by rw [← same]; simpa using whole⟩
    · refine ⟨rest ++ '/' :: slashes ++ basename path, ?_⟩
      rw [shape] at whole
      simpa using whole

theorem mem_dirname_or_basename {c : Char} (member : c ∈ path) (other : c ≠ '/') :
    c ∈ dirname path ∨ c ∈ basename path := by
  rcases dirname_cases path with ⟨_, whole⟩ | ⟨slashes, all, _, whole⟩
  · rw [whole] at member
    exact List.mem_append.mp member
  · rw [whole] at member
    rcases List.mem_append.mp member with before | last
    · rcases List.mem_append.mp before with above | slash
      · exact .inl above
      · rcases List.mem_cons.mp slash with same | slash
        · exact absurd same other
        · exact absurd (all c slash) other
    · exact .inr last

theorem dirname_ends (path : Path) : (∀ c ∈ dirname path, c = '/') ∨ basename (dirname path) ≠ [] := by
  rcases dirname_cases path with ⟨all, _⟩ | ⟨_, _, ⟨c, last, other⟩, _⟩
  · exact .inl all
  · right
    rw [basename, Ne, List.rtakeWhile_eq_nil_iff]
    intro slash
    have some_ : dirname path ≠ [] := by
      intro none
      rw [none] at last
      cases last
    rw [List.getLast?_eq_getLast_of_ne_nil some_, Option.some.injEq] at last
    exact slash some_ (by simpa [last] using other)

theorem dirname_length (some_ : basename path ≠ []) : (dirname path).length < path.length := by
  have whole : path.rdropWhile (· != '/') ++ basename path = path := List.rdropWhile_append_rtakeWhile
  have short : (dirname path).length ≤ (path.rdropWhile (· != '/')).length := by
    rw [dirname]
    split
    · exact le_refl _
    · exact (List.rdropWhile_prefix _ _).length_le
  have := congrArg List.length whole
  have := List.length_pos_iff.mpr some_
  rw [List.length_append] at *
  omega

/-! ### Absolute paths -/

/-- `isabs`. -/
def Absolute (path : Path) : Prop := path.head? = some '/'

instance (path : Path) : Decidable (Absolute path) := inferInstanceAs (Decidable (_ = _))

theorem rootSlashes_append (nonslash : ∃ c ∈ path, c ≠ '/') (more : Path) :
    rootSlashes (path ++ more) = rootSlashes path := by
  have same : (path ++ more).takeWhile (· == '/') = path.takeWhile (· == '/') := by
    rw [List.takeWhile_append, if_neg]
    intro full
    obtain ⟨c, member, other⟩ := nonslash
    have all := List.takeWhile_eq_self_iff.mp ((List.takeWhile_prefix _).eq_of_length full)
    exact other (by simpa using all c member)
  rw [rootSlashes, same, rootSlashes]

theorem rootSlashes_basename {root name : Path} (one : '/' ∉ name) :
    rootSlashes (root ++ name) = rootSlashes root := by
  have nothing : name.takeWhile (· == '/') = [] := by
    rw [List.takeWhile_eq_nil_iff]
    intro bound same
    exact one ((beq_iff_eq.mp same) ▸ List.get_mem name ⟨0, bound⟩)
  have same : (root ++ name).takeWhile (· == '/') = root.takeWhile (· == '/') := by
    rw [List.takeWhile_append, nothing, List.append_nil]
    split
    next full => exact ((List.takeWhile_prefix _).eq_of_length full).symm
    next => rfl
  rw [rootSlashes, same, rootSlashes]

theorem rootSlashes_dirname (path : Path) : rootSlashes (dirname path) = rootSlashes path := by
  rcases dirname_cases path with ⟨_, whole⟩ | ⟨slashes, _, ⟨c, last, other⟩, whole⟩
  · conv_rhs => rw [whole, rootSlashes_basename (slash_notMem_basename path)]
  · conv_rhs => rw [whole, List.append_assoc, rootSlashes_append ⟨c, List.mem_of_getLast? last, other⟩]

theorem absolute_iff : Absolute path ↔ rootSlashes path ≠ 0 := by
  rw [Absolute, rootSlashes]
  cases path with
  | nil => simp
  | cons c path =>
    by_cases slash : c = '/'
    · simp only [slash, List.head?_cons]
      split <;> simp_all
    · simp [slash]

theorem rootSlashes_cases (root : Absolute path) : rootSlashes path = 1 ∨ rootSlashes path = 2 := by
  rw [absolute_iff] at root
  rw [rootSlashes] at root ⊢
  split at root <;> simp_all

theorem absolute_dirname (root : Absolute path) : Absolute (dirname path) := by
  rw [absolute_iff] at root ⊢
  rwa [rootSlashes_dirname]

/-- A part that can be created is reached from the same root, by the first of the names. -/
theorem Part.starts (named : Named part) (within : Part part path) :
    rootSlashes path = rootSlashes part ∧ names part <+: names path := by
  rcases within with rfl | ⟨rest, rfl⟩
  · exact ⟨rfl, List.prefix_rfl⟩
  · obtain ⟨c, last, other⟩ := named.nonslash
    exact ⟨rootSlashes_append ⟨c, List.mem_of_getLast? last, other⟩ _, names_slash part rest ▸ List.prefix_append ..⟩

/-- One step down or up from a directory that is not reached through a link. -/
def enter (stack : List Path) (name : Path) : List Path :=
  if name = ['.'] then stack else if name = ['.', '.'] then stack.tail else name :: stack

theorem foldl_push {stack : List Path} (up : ['.', '.'] ∉ stack) (path : List Path) :
    path.foldl (push true) stack = path.foldl enter stack := by
  induction path generalizing stack with
  | nil => rfl
  | cons name path ih =>
    have here : push true stack name = enter stack name := by
      have lower : stack.head? ≠ some ['.', '.'] := fun top => up (List.mem_of_mem_head? top)
      by_cases dots : name = ['.', '.'] <;> simp [push, enter, dots, lower]
    have still : ['.', '.'] ∉ enter stack name := by
      rw [enter]
      split
      · exact up
      split
      · exact fun member => up (List.mem_of_mem_tail member)
      next dots => simpa [Ne.symm dots] using up
    rw [List.foldl_cons, List.foldl_cons, here, ih still]

/-- The normal form of an absolute path is the place that its components lead to. -/
theorem normalise_absolute (root : Absolute path) :
    normalise path = (rootSlashes path, (names path).foldl enter []) := by
  have rooted : (rootSlashes path != 0) = true := by simpa using absolute_iff.mp root
  rw [normalise, rooted, foldl_push (by simp)]

/-! ### Components -/

/-- Induction on the components of a path, from the first one. -/
theorem split_induction {motive : Path → Prop} (last : ∀ part, '/' ∉ part → motive part)
    (more : ∀ part rest, '/' ∉ part → motive rest → motive (part ++ '/' :: rest)) (path : Path) : motive path := by
  induction size : path.length using Nat.strong_induction_on generalizing path with
  | _ n ih =>
    by_cases slash : '/' ∈ path
    · obtain ⟨part, rest, rfl, first⟩ := List.eq_append_cons_of_mem slash
      apply more part rest first
      refine ih rest.length ?_ rest rfl
      rw [← size, List.length_append, List.length_cons]
      omega
    · exact last path slash

theorem slash_notMem_splitOn {name : Path} (member : name ∈ path.splitOn '/') : '/' ∉ name := by
  induction path using split_induction with
  | last part one =>
    rw [List.splitOn_eq_singleton one, List.mem_singleton] at member
    rwa [member]
  | more part rest one ih =>
    rw [List.splitOn_append_cons_self_of_not_mem one] at member
    rcases List.mem_cons.mp member with rfl | later
    · exact one
    · exact ih later

/-- Where some characters are read as slashes too, the components are split further. -/
theorem splitOn_map {f : Char → Char} (slash : f '/' = '/') (path : Path) :
    (path.map f).splitOn '/' = (path.splitOn '/').flatMap fun part => (part.map f).splitOn '/' := by
  induction path using split_induction with
  | last part one => rw [List.splitOn_eq_singleton one, List.flatMap_singleton]
  | more part rest one ih =>
    rw [List.map_append, List.map_cons, slash, List.splitOn_append_cons_self, ih,
      List.splitOn_append_cons_self_of_not_mem one, List.flatMap_cons]

theorem foldl_enter {stack path : List Path} (up : ['.', '.'] ∉ path) :
    path.foldl enter stack = (path.filter (· ≠ ['.'])).reverse ++ stack := by
  induction path generalizing stack with
  | nil => rfl
  | cons name path ih =>
    obtain ⟨other, rest⟩ := not_or.mp (mt List.mem_cons.mpr up)
    rw [List.foldl_cons, ih rest, enter, if_neg (Ne.symm other)]
    by_cases dot : name = ['.'] <;> simp [dot]

/-- The normal form of an absolute path that never goes up: its root, and its components
but those that are `.`. -/
theorem normpath_absolute (root : Absolute path) (up : ['.', '.'] ∉ names path) :
    normpath path = rooted (rootSlashes path) ((names path).filter (· ≠ ['.'])) := by
  have some_ : rooted (rootSlashes path) ((names path).filter (· ≠ ['.'])) ≠ [] := by
    have positive := absolute_iff.mp root
    simp [rooted, positive]
  rw [normpath, normalise_absolute root]
  simp only [foldl_enter up, List.append_nil, List.reverse_reverse]
  rw [if_neg some_]

theorem names_rooted {slashes : Nat} {parts : List Path} (each : ∀ part ∈ parts, '/' ∉ part ∧ part ≠ []) :
    names (rooted slashes parts) = parts := by
  induction slashes with
  | zero =>
    rw [rooted, List.replicate_zero, List.nil_append, names]
    by_cases none : parts = []
    · rw [none]
      rfl
    · rw [List.splitOn_intercalate '/' (fun part member => (each part member).1) none, List.filter_eq_self]
      exact fun part member => decide_eq_true (each part member).2
  | succ slashes ih =>
    have below := names_slash [] (rooted slashes parts)
    rw [ih] at below
    exact below

theorem rootSlashes_rooted {slashes : Nat} {parts : List Path} (few : slashes = 1 ∨ slashes = 2)
    (each : ∀ part ∈ parts, '/' ∉ part ∧ part ≠ []) : rootSlashes (rooted slashes parts) = slashes := by
  have stops : (['/'].intercalate parts).takeWhile (· == '/') = [] := by
    cases parts with
    | nil => rfl
    | cons part rest =>
      obtain ⟨one, some_⟩ := each part List.mem_cons_self
      obtain ⟨c, more, rfl⟩ := List.exists_cons_of_ne_nil some_
      have other : c ≠ '/' := fun same => one (by simp [same])
      cases rest <;> simp [List.intercalate, other]
  rcases few with rfl | rfl <;> simp [rootSlashes, rooted, stops]

end PosixPaths
