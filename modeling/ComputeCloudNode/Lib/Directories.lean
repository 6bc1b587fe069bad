import ComputeCloudNode.Lib.PosixPaths

/-! Making directories as Python's `os.makedirs` does, on any file system. What a
file system has to promise is little: nothing is created under a path that does not
end in a name, or that has a null character. `Tree` is one with directories and files and without links, on which
`makedirs` is shown to make every directory above the one it is asked for. -/
namespace Directories
open PosixPaths

/-- Why a call of the system failed. `value` is the `ValueError` of a path that
cannot be handed to the system. -/
inductive Failure
  | fileExists
  | other
  | value
  deriving DecidableEq

structure FileSystem (σ : Type) where
  /-- `os.path.exists`. -/
  pathExists : σ → Path → Bool
  /-- `os.path.isdir`. -/
  isDir : σ → Path → Bool
  mkdir : σ → Path → Except Failure σ
  /-- `open(path, "wb")`, a write and `close`; nothing if the file cannot be opened. -/
  openWb : σ → Path → List UInt8 → Option σ
  mkdir_null : ∀ {state path}, '\x00' ∈ path → mkdir state path = .error .value
  mkdir_named : ∀ {state path state'}, mkdir state path = .ok state' → Named path
  openWb_named : ∀ {state path bytes state'}, openWb state path bytes = some state' → Named path

/-- What `makedirs` has done: the directories that it created, in order. -/
structure Made (σ : Type) where
  made : List Path
  state : σ
  raised : Option Failure

variable {σ : Type} {files : FileSystem σ}

/-- `head` and `tail` in `makedirs`. -/
def cutLast (path : Path) : Path × Path :=
  if basename path = [] then (dirname (dirname path), basename (dirname path)) else (dirname path, basename path)

/-- The last `try` of `makedirs` with `exist_ok`. -/
def makeOne (files : FileSystem σ) (path : Path) (before : Made σ) : Made σ :=
  match files.mkdir before.state path with
  | .ok state => ⟨before.made ++ [path], state, none⟩
  | .error .value => { before with raised := some .value }
  | .error failure => { before with raised := if files.isDir before.state path then none else some failure }

/-- `makedirs` with `exist_ok`, up to a depth. -/
def makedirsWithin (files : FileSystem σ) : Nat → Path → σ → Made σ
  | 0, path, state => makeOne files path ⟨[], state, none⟩
  | depth + 1, path, state =>
    let (head, tail) := cutLast path
    if head ≠ [] ∧ tail ≠ [] ∧ files.pathExists state head = false then
      let above := makedirsWithin files depth head state
      if above.raised = none ∨ above.raised = some .fileExists then
        if tail = ['.'] then { above with raised := none } else makeOne files path above
      else above
    else makeOne files path ⟨[], state, none⟩

/-- `os.makedirs(path, exist_ok=True)`. The head is shorter at every depth. -/
def makedirs (files : FileSystem σ) (path : Path) (state : σ) : Made σ := makedirsWithin files path.length path state

theorem part_cutLast {part path : Path} (named : Named part) (within : Part part (cutLast path).1) : Part part path := by
  rw [cutLast] at within
  split at within
  · exact part_of_dirname named (part_of_dirname named within)
  · exact part_of_dirname named within

/-- Every directory that is created is kept track of. -/
def Keeps (files : FileSystem σ) (path : Path) (I : List Path → σ → Prop) : Prop :=
  ∀ {part made state state'}, I made state → Named part → Part part path →
    files.mkdir state part = .ok state' → I (made ++ [part]) state'

variable {path : Path} {state : σ} {I : List Path → σ → Prop}

theorem makeOne_invariant {before : Made σ} (kept : Keeps files path I) (holds : I before.made before.state) :
    I (makeOne files path before).made (makeOne files path before).state := by
  rw [makeOne]
  cases called : files.mkdir before.state path with
  | ok after => exact kept holds (files.mkdir_named called) part_self called
  | error failure => cases failure <;> exact holds

/-- What holds at the start and survives the creation of one part of the path that
ends in a name holds after `makedirs`, whether it raises or not. -/
theorem makedirsWithin_invariant (kept : Keeps files path I) (start : I [] state) (depth : Nat) :
    I (makedirsWithin files depth path state).made (makedirsWithin files depth path state).state := by
  induction depth generalizing path with
  | zero => exact makeOne_invariant kept start
  | succ depth ih =>
    rw [makedirsWithin]
    dsimp only
    split
    · have above := @ih (cutLast path).1 fun holds named within called =>
        kept holds named (part_cutLast named within) called
      split
      · split
        · exact above
        · exact makeOne_invariant kept above
      · exact above
    · exact makeOne_invariant kept start

/-- `makedirs` creates only parts of the path that end in a name. -/
theorem makedirs_made {part : Path} (member : part ∈ (makedirs files path state).made) :
    Named part ∧ Part part path := by
  refine makedirsWithin_invariant (I := fun made _ => ∀ q ∈ made, Named q ∧ Part q path) ?_ (by simp) _ part member
  intro q made state state' earlier named within _ other member
  rcases List.mem_append.mp member with old | new
  · exact earlier other old
  · exact List.mem_singleton.mp new ▸ ⟨named, within⟩

theorem null_cutLast (null : '\x00' ∈ path) : '\x00' ∈ (cutLast path).1 ∨ '\x00' ∈ (cutLast path).2 := by
  rw [cutLast]
  split
  next nothing =>
    refine mem_dirname_or_basename ((mem_dirname_or_basename null (by decide)).resolve_right ?_) (by decide)
    rw [nothing]
    exact List.not_mem_nil
  next => exact mem_dirname_or_basename null (by decide)

/-- A null character makes `makedirs` raise, and not because the path is taken. -/
theorem makedirsWithin_null (null : '\x00' ∈ path) (depth : Nat) :
    (makedirsWithin files depth path state).raised ≠ none ∧
      (makedirsWithin files depth path state).raised ≠ some .fileExists := by
  have refused : ∀ before : Made σ, (makeOne files path before).raised = some .value := by
    intro before
    rw [makeOne, files.mkdir_null null]
  induction depth generalizing path with
  | zero =>
    rw [makedirsWithin, refused]
    simp
  | succ depth ih =>
    rw [makedirsWithin]
    dsimp only
    split
    · split
      next passed =>
        rcases null_cutLast null with above | last
        · obtain ⟨silent, taken⟩ := ih above fun before => by rw [makeOne, files.mkdir_null above]
          exact absurd passed (not_or.mpr ⟨silent, taken⟩)
        · rw [if_neg fun dot => absurd (dot ▸ last) (by decide), refused]
          simp
      next stuck => rwa [not_or] at stuck
    · rw [refused]
      simp

/-! ### A file system without links -/

/-- A root, and the names that lead to a place, the last one first. -/
abbrev Place := Nat × List Path

structure Tree where
  dirs : List Place
  contents : List (Place × List UInt8) := []
  deriving DecidableEq

namespace Tree

variable {tree tree' : Tree}

/-- Follow names from a directory; every place on the way has to be one. -/
def walk (tree : Tree) (root : Nat) : List Path → List Path → Option (List Path)
  | stack, [] => some stack
  | stack, name :: rest => if (root, stack) ∈ tree.dirs then tree.walk root (enter stack name) rest else none

/-- Where an absolute path leads. -/
def find (tree : Tree) (path : Path) : Option Place :=
  if rootSlashes path = 0 ∨ '\x00' ∈ path then none
  else (tree.walk (rootSlashes path) [] (names path)).map fun stack => (rootSlashes path, stack)

def occupied (tree : Tree) (place : Place) : Bool := place ∈ tree.dirs ∨ place ∈ tree.contents.map Prod.fst

def mkdir (tree : Tree) (path : Path) : Except Failure Tree :=
  if '\x00' ∈ path then .error .value
  else
    match tree.find path with
    | none => .error .other
    | some place =>
      if tree.occupied place ∨ ¬ Named path then .error .fileExists
      else .ok { tree with dirs := place :: tree.dirs }

def openWb (tree : Tree) (path : Path) (bytes : List UInt8) : Option Tree :=
  match tree.find path with
  | none => none
  | some place =>
    if place ∈ tree.dirs ∨ ¬ Named path then none
    else some { tree with contents := (place, bytes) :: tree.contents.filter (·.1 ≠ place) }

theorem mkdir_ok_iff : tree.mkdir path = .ok tree' ↔
    Named path ∧ ∃ place, tree.find path = some place ∧ tree.occupied place = false ∧
      tree' = { tree with dirs := place :: tree.dirs } := by
  rw [mkdir]
  by_cases null : '\x00' ∈ path
  · rw [if_pos null]
    simp [Named, null]
  · rw [if_neg null]
    cases tree.find path with
    | none => simp
    | some place =>
      simp only [Option.some.injEq, exists_eq_left']
      by_cases named : Named path
      · cases tree.occupied place <;> simp [named, eq_comm (a := tree')]
      · simp [named]

theorem openWb_some_iff {bytes : List UInt8} : tree.openWb path bytes = some tree' ↔
    Named path ∧ ∃ place, tree.find path = some place ∧ place ∉ tree.dirs ∧
      tree' = { tree with contents := (place, bytes) :: tree.contents.filter (·.1 ≠ place) } := by
  rw [openWb]
  cases tree.find path with
  | none => simp
  | some place =>
    simp only [Option.some.injEq, exists_eq_left']
    by_cases named : Named path
    · by_cases dir : place ∈ tree.dirs <;> simp [dir, named, eq_comm (a := tree')]
    · simp [named]

def fileSystem : FileSystem Tree where
  pathExists tree path := (tree.find path).any tree.occupied
  isDir tree path := (tree.find path).any fun place => place ∈ tree.dirs
  mkdir := mkdir
  openWb := openWb
  mkdir_null null := if_pos null
  mkdir_named made := (mkdir_ok_iff.mp made).1
  openWb_named opened := (openWb_some_iff.mp opened).1

theorem walk_append (root : Nat) (stack before after : List Path) :
    tree.walk root stack (before ++ after) = (tree.walk root stack before).bind fun at_ => tree.walk root at_ after := by
  induction before generalizing stack with
  | nil => rfl
  | cons name before ih =>
    rw [List.cons_append, walk, walk]
    split
    · exact ih _
    · rfl

theorem walk_eq {root : Nat} {stack names at_ : List Path} (walked : tree.walk root stack names = some at_) :
    at_ = names.foldl enter stack := by
  induction names generalizing stack with
  | nil =>
    cases walked
    rfl
  | cons name names ih =>
    rw [walk, Option.ite_none_right_eq_some] at walked
    exact ih walked.2

theorem walk_mono {root : Nat} {stack names at_ : List Path} (more : tree.dirs ⊆ tree'.dirs)
    (walked : tree.walk root stack names = some at_) : tree'.walk root stack names = some at_ := by
  induction names generalizing stack with
  | nil => exact walked
  | cons name names ih =>
    rw [walk, Option.ite_none_right_eq_some] at walked
    rw [walk, if_pos (more walked.1)]
    exact ih walked.2

theorem find_some_iff {place : Place} : tree.find path = some place ↔
    Absolute path ∧ '\x00' ∉ path ∧ ∃ stack, tree.walk (rootSlashes path) [] (names path) = some stack ∧
      (rootSlashes path, stack) = place := by
  rw [find, absolute_iff, Option.ite_none_left_eq_some, Option.map_eq_some_iff, not_or, and_assoc]

theorem find_normalise {place : Place} (found : tree.find path = some place) : place = normalise path := by
  obtain ⟨root, _, stack, walked, rfl⟩ := find_some_iff.mp found
  rw [normalise_absolute root, walk_eq walked]

/-- The path leads to a directory. -/
def IsDir (tree : Tree) (path : Path) : Prop := tree.find path = some (normalise path) ∧ normalise path ∈ tree.dirs

theorem isDir_iff : fileSystem.isDir tree path = true ↔ tree.IsDir path := by
  rw [fileSystem, Option.any_eq_true]
  constructor
  · rintro ⟨place, found, dir⟩
    obtain rfl := find_normalise found
    exact ⟨found, by simpa using dir⟩
  · rintro ⟨found, dir⟩
    exact ⟨_, found, by simpa using dir⟩

theorem find_mono {place : Place} (more : tree.dirs ⊆ tree'.dirs) (found : tree.find path = some place) :
    tree'.find path = some place := by
  obtain ⟨root, proper, stack, walked, same⟩ := find_some_iff.mp found
  exact find_some_iff.mpr ⟨root, proper, stack, walk_mono more walked, same⟩

theorem IsDir.mono (dir : tree.IsDir path) (more : tree.dirs ⊆ tree'.dirs) : tree'.IsDir path :=
  ⟨find_mono more dir.1, more dir.2⟩

/-- Nothing but directories, each in a directory. -/
structure Sound (tree : Tree) : Prop where
  empty : tree.contents = []
  roots : ∀ root, root = 1 ∨ root = 2 → (root, []) ∈ tree.dirs
  closed : ∀ {root name stack}, (root, name :: stack) ∈ tree.dirs → (root, stack) ∈ tree.dirs

theorem Sound.occupied_iff (sound : tree.Sound) (place : Place) : tree.occupied place ↔ place ∈ tree.dirs := by
  rw [occupied, sound.empty]
  simp

theorem Sound.enter_dots {root : Nat} {stack : List Path} {name : Path} (sound : tree.Sound)
    (dir : (root, stack) ∈ tree.dirs) (dots : name = ['.'] ∨ name = ['.', '.']) : (root, enter stack name) ∈ tree.dirs := by
  rcases dots with rfl | rfl
  · exact dir
  · cases stack with
    | nil => exact dir
    | cons name stack => exact sound.closed dir

/-- Below a directory every name leads somewhere. -/
theorem find_below (proper : '\x00' ∉ path) (some_ : basename path ≠ []) (dir : tree.IsDir (dirname path)) :
    ∃ stack, (rootSlashes path, stack) ∈ tree.dirs ∧
      tree.find path = some (rootSlashes path, enter stack (basename path)) := by
  obtain ⟨found, member⟩ := dir
  obtain ⟨root, _, stack, walked, same⟩ := find_some_iff.mp found
  rw [rootSlashes_dirname] at walked same
  rw [← same] at member
  refine ⟨stack, member, find_some_iff.mpr ⟨?_, proper, _, ?_, rfl⟩⟩
  · rw [absolute_iff] at root ⊢
    rwa [rootSlashes_dirname] at root
  · rw [names_basename some_, walk_append, walked, Option.bind_some, walk, if_pos member, walk]

/-- What is found under a path that ends in a name lies in a directory. -/
theorem find_named {place : Place} (found : tree.find path = some place) (named : Named path) :
    ∃ stack, (rootSlashes path, stack) ∈ tree.dirs ∧ place = (rootSlashes path, basename path :: stack) := by
  obtain ⟨_, _, at_, walked, rfl⟩ := find_some_iff.mp found
  rw [names_basename named.1, walk_append, Option.bind_eq_some_iff] at walked
  obtain ⟨stack, _, last⟩ := walked
  rw [walk, Option.ite_none_right_eq_some, walk, Option.some.injEq] at last
  obtain ⟨dir, rfl⟩ := last
  exact ⟨stack, dir, by rw [enter, if_neg named.2.1, if_neg named.2.2.1]⟩

/-- What the tree becomes while directories are made: it stays sound, and the new
places are those of the paths that were made. -/
structure Grown (before : Tree) (made : List Path) (after : Tree) : Prop where
  sound : after.Sound
  kept : before.dirs ⊆ after.dirs
  new : ∀ place ∈ after.dirs, place ∈ before.dirs ∨ ∃ part ∈ made, place = normalise part

theorem grown_self (sound : tree.Sound) (made : List Path) : Grown tree made tree :=
  ⟨sound, List.Subset.refl _, fun _ member => .inl member⟩

theorem grown_keeps (before : Tree) (path : Path) : Keeps fileSystem path (Grown before) := by
  intro part made tree tree' grown named _ called
  obtain ⟨_, place, found, _, rfl⟩ := mkdir_ok_iff.mp called
  obtain ⟨stack, dir, split⟩ := find_named found named
  refine ⟨⟨grown.sound.empty, fun root known => List.mem_cons_of_mem _ (grown.sound.roots root known), ?_⟩,
    fun place member => List.mem_cons_of_mem _ (grown.kept member), ?_⟩
  · intro root name below member
    rcases List.mem_cons.mp member with new | old
    · rw [split] at new
      cases new
      exact List.mem_cons_of_mem _ dir
    · exact List.mem_cons_of_mem _ (grown.sound.closed old)
  · intro other member
    rcases List.mem_cons.mp member with rfl | old
    · exact .inr ⟨part, by simp, find_normalise found⟩
    · rcases grown.new other old with known | ⟨part, made, same⟩
      · exact .inl known
      · exact .inr ⟨part, List.mem_append_left _ made, same⟩

theorem makedirs_grown (sound : tree.Sound) (depth : Nat) (path : Path) :
    Grown tree (makedirsWithin fileSystem depth path tree).made (makedirsWithin fileSystem depth path tree).state :=
  makedirsWithin_invariant (grown_keeps tree path) (grown_self sound []) depth

theorem makeOne_isDir {before : Made Tree} (sound : before.state.Sound) {place : Place}
    (proper : '\x00' ∉ path) (found : before.state.find path = some place)
    (dir : Named path ∨ place ∈ before.state.dirs) :
    (makeOne fileSystem path before).raised = none ∧ (makeOne fileSystem path before).state.IsDir path := by
  obtain rfl := find_normalise found
  by_cases free : Named path ∧ normalise path ∉ before.state.dirs
  · have made : mkdir before.state path =
        .ok { before.state with dirs := normalise path :: before.state.dirs } := by
      rw [mkdir_ok_iff]
      refine ⟨free.1, _, found, ?_, rfl⟩
      rw [Bool.eq_false_iff, Ne, sound.occupied_iff]
      exact free.2
    have called : fileSystem.mkdir before.state path = _ := made
    rw [makeOne, called]
    exact ⟨rfl, find_mono (List.subset_cons_self ..) found, List.mem_cons_self⟩
  · have there : before.state.IsDir path := by
      refine ⟨found, ?_⟩
      rcases dir with named | dir
      · by_contra missing
        exact free ⟨named, missing⟩
      · exact dir
    have called : fileSystem.mkdir before.state path = .error .fileExists := by
      change mkdir before.state path = _
      rw [mkdir, if_neg proper, found]
      refine if_pos (.inl ?_)
      exact (sound.occupied_iff _).mpr there.2
    rw [makeOne, called]
    exact ⟨if_pos (isDir_iff.mpr there), there⟩

theorem makeOne_below {before : Made Tree} (sound : before.state.Sound) (some_ : basename path ≠ [])
    (proper : '\x00' ∉ path) (above : before.state.IsDir (dirname path)) :
    (makeOne fileSystem path before).raised = none ∧ (makeOne fileSystem path before).state.IsDir path := by
  obtain ⟨stack, dir, found⟩ := find_below proper some_ above
  apply makeOne_isDir sound proper found
  by_cases dots : basename path = ['.'] ∨ basename path = ['.', '.']
  · exact .inr (sound.enter_dots dir dots)
  · rw [not_or] at dots
    exact .inl ⟨some_, dots.1, dots.2, proper⟩

theorem makeOne_kept {before : Made Tree} (sound : before.state.Sound) :
    before.state.dirs ⊆ (makeOne fileSystem path before).state.dirs :=
  (makeOne_invariant (grown_keeps before.state path) (grown_self sound before.made)).kept

/-- The parts of a directory that is there are there. -/
theorem IsDir.part {part : Path} (dir : tree.IsDir path) (named : Named part) (within : Part part path) :
    tree.IsDir part := by
  obtain ⟨root, proper, at_, walked, same⟩ := find_some_iff.mp dir.1
  obtain ⟨roots, more, names⟩ := within.starts named
  rw [roots, ← names, walk_append, Option.bind_eq_some_iff] at walked
  obtain ⟨stack, first, last⟩ := walked
  have rooted : Absolute part := by
    rw [absolute_iff] at root ⊢
    rwa [roots] at root
  have found := find_some_iff.mpr ⟨rooted, named.2.2.2, stack, first, rfl⟩
  have place := find_normalise found
  refine ⟨place ▸ found, place ▸ ?_⟩
  cases more with
  | nil =>
    cases last
    rw [← roots, same]
    exact dir.2
  | cons name more =>
    rw [walk, Option.ite_none_right_eq_some] at last
    exact last.1

theorem isDir_of_exists (sound : tree.Sound) (known : fileSystem.pathExists tree path = true) : tree.IsDir path := by
  rw [fileSystem, Option.any_eq_true] at known
  obtain ⟨place, found, occupied⟩ := known
  obtain rfl := find_normalise found
  exact ⟨found, (sound.occupied_iff _).mp occupied⟩

/-- The directory is there unless its path has a null character, and with it the
directories of all parts of the path that end in a name. -/
def Reached (path : Path) (after : Made Tree) : Prop :=
  ('\x00' ∉ path → after.raised = none ∧ after.state.IsDir path) ∧
    ∀ part, Named part → Part part path → after.state.IsDir part

theorem reached_root {before : Made Tree} (sound : before.state.Sound) (root : Absolute path)
    (slashes : ∀ c ∈ path, c = '/') : Reached path (makeOne fileSystem path before) := by
  refine ⟨fun proper => ?_, fun part named within => ?_⟩
  · have found : before.state.find path = some (rootSlashes path, []) :=
      find_some_iff.mpr ⟨root, proper, [], by rw [names_slashes slashes]; rfl, rfl⟩
    exact makeOne_isDir sound proper found (.inr (sound.roots _ (rootSlashes_cases root)))
  · refine absurd (fun c member => slashes c ?_) named.not_slashes
    rcases within with rfl | ⟨rest, rfl⟩
    · exact member
    · exact List.mem_append_left _ member

/-- What is left to do once the directory above is there. -/
theorem reached_below {before : Made Tree} (sound : before.state.Sound) (some_ : basename path ≠ [])
    (above : '\x00' ∉ dirname path → before.state.IsDir (dirname path))
    (covered : ∀ part, Named part → Part part (dirname path) → before.state.IsDir part) :
    Reached path (makeOne fileSystem path before) := by
  have here : '\x00' ∉ path → _ := fun proper =>
    makeOne_below sound some_ proper (above fun member => proper (dirname_subset path member))
  refine ⟨here, fun part named within => ?_⟩
  by_cases whole : path = part
  · subst whole
    exact (here named.2.2.2).2
  · exact (covered part named (part_dirname named within whole)).mono (makeOne_kept sound)

theorem reached_dot {before : Made Tree} (dot : basename path = ['.']) (reached : Reached (dirname path) before) :
    Reached path { before with raised := none } := by
  obtain ⟨above, covered⟩ := reached
  refine ⟨fun proper => ⟨rfl, ?_⟩, fun part named within => ?_⟩
  · have there := (above fun member => proper (dirname_subset path member)).2
    obtain ⟨stack, dir, found⟩ := find_below proper (by rw [dot]; simp) there
    rw [dot] at found
    exact ⟨find_normalise found ▸ found, find_normalise found ▸ dir⟩
  · refine covered part named (part_dirname named within ?_)
    rintro rfl
    exact named.2.1 dot

/-- On directories only, `makedirs` of a path without a null character succeeds, and in
any case every part of the path that ends in a name has become a directory. -/
theorem makedirsWithin_reached (sound : tree.Sound) (root : Absolute path)
    (ends : (∀ c ∈ path, c = '/') ∨ basename path ≠ []) {depth : Nat} (deep : path.length ≤ depth) :
    Reached path (makedirsWithin fileSystem depth path tree) := by
  induction depth generalizing path with
  | zero =>
    rw [List.length_eq_zero_iff.mp (Nat.le_zero.mp deep)] at root
    cases root
  | succ depth ih =>
    rcases ends with slashes | some_
    · have nothing : (cutLast path).2 = [] := by
        rw [cutLast, if_pos (basename_slashes slashes)]
        exact basename_slashes (dirname_slashes slashes)
      rw [makedirsWithin]
      dsimp only
      rw [if_neg fun wanted => wanted.2.1 nothing]
      exact reached_root sound root slashes
    · have cut : cutLast path = (dirname path, basename path) := by rw [cutLast, if_neg some_]
      have shorter := dirname_length some_
      have above := ih (absolute_dirname root) (dirname_ends path) (by omega)
      have still := (makedirs_grown sound depth (dirname path)).sound
      rw [makedirsWithin, cut]
      dsimp only
      by_cases missing : dirname path ≠ [] ∧ basename path ≠ [] ∧ fileSystem.pathExists tree (dirname path) = false
      · rw [if_pos missing]
        split
        · split
          next dot => exact reached_dot dot above
          next => exact reached_below still some_ (fun proper => (above.1 proper).2) above.2
        next stuck =>
          have bad : '\x00' ∈ path := by
            by_contra proper
            exact stuck (.inl (above.1 fun member => proper (dirname_subset path member)).1)
          refine ⟨fun proper => absurd bad proper, fun part named within => ?_⟩
          refine above.2 part named (part_dirname named within ?_)
          rintro rfl
          exact named.2.2.2 bad
      · rw [if_neg missing]
        have head : dirname path ≠ [] := by
          intro nothing
          have := absolute_dirname root
          rw [nothing] at this
          cases this
        have dir : tree.IsDir (dirname path) :=
          isDir_of_exists sound (Bool.of_not_eq_false fun unknown => missing ⟨head, some_, unknown⟩)
        exact reached_below sound some_ (fun _ => dir) fun part named within => dir.part named within

end Tree

end Directories
