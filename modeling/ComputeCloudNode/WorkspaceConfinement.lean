import ComputeCloudNode.WorkspaceSync

/-! Where `_sync_ws` creates directories and opens files. The given path is joined to
`/workspace` as it is, so an absolute path replaces it and `..` leaves it; the writes
stay inside exactly if no file that is attempted has such a path. -/
namespace ComputeCloudNode.NativeWorkbench
open PosixPaths Directories Workbench

variable {σ : Type} {host : Host σ} {state : σ} {directory : Path} {request : String → Request} {file : FileInfo}
  {files : List FileInfo} {relPath : String}

theorem localPath_absolute (root : Absolute directory) (relPath : String) : Absolute (localPath directory relPath) := by
  rw [localPath, join]
  split
  next absolute => exact absolute
  next =>
    have some_ : directory ≠ [] := by
      rintro rfl
      cases root
    split
    · rwa [Absolute, List.head?_append_of_ne_nil _ some_]
    · rwa [Absolute, List.head?_append_of_ne_nil _ some_]

theorem fetch_opens {request : Request} {path : Path} {touch : Touch} (member : touch ∈ (fetch host request path state).2) :
    touch = .opened path ∧ Named path := by
  rw [fetch] at member
  obtain ⟨after, answer, answered⟩ : ∃ after answer, host.get state request = (after, answer) := ⟨_, _, rfl⟩
  rw [answered] at member
  cases answer with
  | none => cases member
  | some response =>
    dsimp only at member
    split at member
    · cases opened : host.files.openWb after path response.content with
      | none =>
        rw [opened] at member
        cases member
      | some written =>
        rw [opened] at member
        exact ⟨List.mem_singleton.mp member, host.files.openWb_named opened⟩
    · cases member

/-- The directories for a file are parts of its path. -/
theorem made_part {path part : Path} (member : part ∈ (makedirs host.files (dirname path) state).made) :
    Named part ∧ Part part path := by
  obtain ⟨named, within⟩ := makedirs_made member
  exact ⟨named, part_of_dirname named within⟩

/-- What is touched for the first file, and afterwards if its directories are there. -/
theorem touched_cons_iff {touch : Touch} (some_ : file.relativePath ≠ "") :
    touch ∈ (syncFiles host directory request (file :: files) state).touched ↔
      let path := localPath directory file.relativePath
      let dirs := makedirs host.files (dirname path) state
      let fetched := fetch host (request file.relativePath) path dirs.state
      (∃ part ∈ dirs.made, .created part = touch) ∨ dirs.raised = none ∧
        (touch ∈ fetched.2 ∨ touch ∈ (syncFiles host directory request files fetched.1).touched) := by
  rw [syncFiles, if_neg some_]
  dsimp only
  cases (makedirs host.files (dirname (localPath directory file.relativePath)) state).raised with
  | some failure => simp
  | none => simp

theorem syncFiles_inside (confined : ∀ file ∈ attempted directory files, Confined directory file.relativePath) :
    StaysInside directory (syncFiles host directory request files state).touched := by
  induction files generalizing state with
  | nil =>
    intro touch member
    cases member
  | cons file rest ih =>
    rw [attempted] at confined
    by_cases skipped : file.relativePath = ""
    · rw [if_pos skipped] at confined
      rw [syncFiles, if_pos skipped]
      exact ih confined
    · rw [if_neg skipped] at confined
      have here : Confined directory file.relativePath := by
        split at confined <;> exact confined file (by simp)
      intro touch member
      rcases (touched_cons_iff skipped).mp member with ⟨part, made, rfl⟩ | ⟨quiet, opened | later⟩
      · obtain ⟨named, within⟩ := made_part made
        exact here part named within
      · obtain ⟨rfl, named⟩ := fetch_opens opened
        exact here _ named part_self
      · have proper : '\x00' ∉ dirname (localPath directory file.relativePath) := fun null =>
          (makedirsWithin_null null _).1 quiet
        rw [if_neg proper] at confined
        exact ih (fun file member => confined file (List.mem_cons_of_mem _ member)) touch later

theorem wsDir_absolute : Absolute wsDir := rfl

theorem enter_above {stack base path : List Path} (up : ['.', '.'] ∉ path) (above : base <:+ stack) :
    base <:+ path.foldl enter stack := by
  induction path generalizing stack with
  | nil => exact above
  | cons name path ih =>
    rw [List.mem_cons, not_or] at up
    apply ih up.2
    rw [enter]
    split
    · exact above
    · rw [if_neg (Ne.symm up.1)]
      exact above.trans (List.suffix_cons ..)

/-- What the readers of weights URIs refuse is all there is: a relative path without a
`..` segment is confined. -/
theorem confined_of_plain (relative : ¬ Absolute relPath.toList) (up : ['.', '.'] ∉ names relPath.toList) :
    Confined wsDir relPath := by
  intro part named within
  have joined : localPath wsDir relPath = wsDir ++ '/' :: relPath.toList := by
    rw [localPath, join]
    exact (if_neg relative).trans (if_neg (by decide))
  obtain ⟨roots, begins⟩ := within.starts named
  have root : Absolute part := by
    have absolute := localPath_absolute wsDir_absolute relPath
    rw [absolute_iff] at absolute ⊢
    rwa [← roots]
  have below : names (localPath wsDir relPath) = "workspace".toList :: names relPath.toList := by
    rw [joined, names_slash]
    rfl
  have first : rootSlashes (localPath wsDir relPath) = 1 := by
    rw [joined]
    rfl
  rw [below, names_basename named.1] at begins
  rw [Inside, normalise_absolute root, ← roots, first, names_basename named.1]
  refine ⟨rfl, ?_⟩
  rcases List.prefix_cons_iff.mp begins with nothing | ⟨rest, path, begun⟩
  · simp at nothing
  · rw [path, List.foldl_cons]
    exact enter_above (fun dots => up (begun.subset dots)) List.suffix_rfl

/-! ### A host on which everything can be done -/

/-- A host with directories and files, and a server that has the files whose URLs are
given. -/
def treeHost (has : String → Bool) : Host Tree where
  files := Tree.fileSystem
  get tree request := (tree, some { statusCode := if has request.url then 200 else 404, content := [] })

theorem fetch_missing {tree : Tree} {has : String → Bool} {request : Request} {path : Path}
    (missing : has request.url = false) : fetch (treeHost has) request path tree = (tree, []) := by
  have answered : (treeHost has).get tree request = (tree, some ⟨404, []⟩) := by simp [treeHost, missing]
  rw [fetch, answered]
  rfl

theorem fetch_found {tree after : Tree} {has : String → Bool} {request : Request} {path : Path}
    (found : has request.url = true) (opens : tree.openWb path [] = some after) :
    fetch (treeHost has) request path tree = (after, [.opened path]) := by
  have answered : (treeHost has).get tree request = (tree, some ⟨200, []⟩) := by simp [treeHost, found]
  have written : (treeHost has).files.openWb tree path [] = some after := opens
  rw [fetch, answered]
  dsimp only
  rw [if_pos rfl, written]

/-- Nothing but directories inside `ws_dir`, and the roots. -/
structure Clean (directory : Path) (tree : Tree) : Prop where
  sound : tree.Sound
  inside : ∀ place ∈ tree.dirs, place.2 = [] ∨
    place.1 = (normalise directory).1 ∧ (normalise directory).2 <:+ place.2

variable {tree : Tree} {has : String → Bool}

theorem named_place {path : Path} (root : Absolute path) (named : Named path) : (normalise path).2 ≠ [] := by
  rw [normalise_absolute root, names_basename named.1, List.foldl_append, List.foldl_cons, List.foldl_nil, enter,
    if_neg named.2.1, if_neg named.2.2.1]
  simp

/-- If a directory outside is there, one was made. -/
theorem Clean.made {made : List Path} {after : Tree} {path : Path} (clean : Clean directory tree) (grown : Tree.Grown tree made after)
    (root : Absolute path) (named : Named path) (outside : ¬ Inside directory path) (dir : normalise path ∈ after.dirs) :
    ∃ part ∈ made, ¬ Inside directory part := by
  rcases grown.new _ dir with old | ⟨part, new, same⟩
  · rcases clean.inside _ old with top | inside
    · exact absurd top (named_place root named)
    · exact absurd inside outside
  · refine ⟨part, new, ?_⟩
    rwa [Inside, ← same]

theorem Clean.grown {made : List Path} {after : Tree} (clean : Clean directory tree) (grown : Tree.Grown tree made after)
    (inside : ∀ part ∈ made, Inside directory part) : Clean directory after := by
  refine ⟨grown.sound, fun place member => ?_⟩
  rcases grown.new place member with old | ⟨part, new, rfl⟩
  · exact clean.inside place old
  · exact .inr (inside part new)

/-- A URL tells which file is asked for. -/
theorem fileRequest_url {baseUrl : String} {block : Workspace} {poolEnv : List (String × String)} {one other : String}
    (same : (fileRequest baseUrl block poolEnv one).url = (fileRequest baseUrl block poolEnv other).url) : one = other := by
  have texts := congrArg String.toList same
  simp only [fileRequest, String.toList_append] at texts
  have last : (toString one).toList = (toString other).toList := by simpa using texts
  exact String.toList_inj.mp last

/-- A part of a file's path that can be created and lies outside is made or opened, on a
host with directories only whose server has the file. -/
theorem file_escapes (root : Absolute directory) (clean : Clean directory tree) (found : has (request relPath).url = true)
    (escapes : ¬ Confined directory relPath) :
    let dirs := makedirs Tree.fileSystem (dirname (localPath directory relPath)) tree
    (∃ part ∈ dirs.made, ¬ Inside directory part) ∨ dirs.raised = none ∧ ¬ Inside directory (localPath directory relPath) ∧
      (fetch (treeHost has) (request relPath) (localPath directory relPath) dirs.state).2 =
        [.opened (localPath directory relPath)] := by
  intro dirs
  have absolute := localPath_absolute root relPath
  have grown : Tree.Grown tree dirs.made dirs.state := Tree.makedirs_grown clean.sound _ _
  have reached : Tree.Reached (dirname (localPath directory relPath)) dirs :=
    Tree.makedirsWithin_reached clean.sound (absolute_dirname absolute) (dirname_ends _) (le_refl _)
  simp only [Confined, not_forall] at escapes
  obtain ⟨part, named, within, outside⟩ := escapes
  by_cases whole : localPath directory relPath = part
  · subst whole
    obtain ⟨quiet, above⟩ := reached.1 fun null => named.2.2.2 (dirname_subset _ null)
    by_cases dir : normalise (localPath directory relPath) ∈ dirs.state.dirs
    · exact .inl (clean.made grown absolute named outside dir)
    · right
      obtain ⟨stack, _, place⟩ := Tree.find_below named.2.2.2 named.1 above
      rw [Tree.find_normalise place] at place
      have opens : dirs.state.openWb (localPath directory relPath) [] = some _ :=
        Tree.openWb_some_iff.mpr ⟨named, _, place, dir, rfl⟩
      exact ⟨quiet, outside, by rw [fetch_found found opens]⟩
  · left
    have dir := (reached.2 part named (part_dirname named within whole)).2
    refine clean.made grown ?_ named outside dir
    rw [absolute_iff] at absolute ⊢
    rwa [← (within.starts named).1]

/-- The first file that is not confined makes `_sync_ws` touch something outside, if
the server has that file and none of the earlier ones. -/
theorem syncFiles_escapes (root : Absolute directory) (clean : Clean directory tree)
    (has_iff : ∀ relPath, has (request relPath).url = true ↔ ¬ Confined directory relPath)
    (member : file ∈ attempted directory files) (escapes : ¬ Confined directory file.relativePath) :
    ¬ StaysInside directory (syncFiles (treeHost has) directory request files tree).touched := by
  induction files generalizing tree with
  | nil => cases member
  | cons first rest ih =>
    rw [attempted] at member
    by_cases skipped : first.relativePath = ""
    · rw [if_pos skipped] at member
      rw [syncFiles, if_pos skipped]
      exact ih clean member
    · rw [if_neg skipped] at member
      have touched : ∀ touch, _ → touch ∈ (syncFiles (treeHost has) directory request (first :: rest) tree).touched :=
        fun touch => (touched_cons_iff skipped).mpr
      intro inside
      by_cases here : Confined directory first.relativePath
      · have proper : '\x00' ∉ dirname (localPath directory first.relativePath) := by
          intro null
          rw [if_pos null] at member
          exact escapes (List.mem_singleton.mp member ▸ here)
        rw [if_neg proper] at member
        have later : file ∈ attempted directory rest := by
          rcases List.mem_cons.mp member with rfl | later
          · exact absurd here escapes
          · exact later
        have reached := Tree.makedirsWithin_reached clean.sound (absolute_dirname (localPath_absolute root first.relativePath))
          (dirname_ends _) (le_refl _)
        have after := clean.grown (Tree.makedirs_grown clean.sound _ _) fun part made => by
          obtain ⟨named, within⟩ := @made_part _ (treeHost has) _ _ _ made
          exact here part named within
        have lacks : has (request first.relativePath).url = false := by
          rw [Bool.eq_false_iff, Ne, has_iff, not_not]
          exact here
        refine ih after later fun touch member => inside touch (touched touch (.inr ⟨(reached.1 proper).1, .inr ?_⟩))
        rw [fetch_missing lacks]
        exact member
      · rcases file_escapes root clean ((has_iff _).mpr here) here with ⟨part, made, outside⟩ | ⟨quiet, outside, opened⟩
        · exact outside (inside _ (touched _ (.inl ⟨part, made, rfl⟩)))
        · refine outside (inside _ (touched (.opened _) (.inr ⟨quiet, .inl ?_⟩)))
          exact opened ▸ List.mem_singleton_self _

/-- `/workspace`, `/etc` and the roots. -/
def someTree : Tree where
  dirs := [(1, ["workspace".toList]), (1, ["etc".toList]), (1, []), (2, [])]

/-- `/workspace` and the roots. -/
def bareTree : Tree where
  dirs := [(1, ["workspace".toList]), (1, []), (2, [])]

theorem bareTree_clean : Clean wsDir bareTree := by
  refine ⟨⟨rfl, ?_, ?_⟩, by decide⟩
  · rintro root (rfl | rfl) <;> decide
  · intro root name stack member
    simp only [bareTree, List.mem_cons, Prod.mk.injEq, List.cons.injEq, List.not_mem_nil, or_false,
      reduceCtorEq, and_false] at member
    obtain ⟨rfl, _, rfl⟩ := member
    decide

/-- Whatever the file system and the server do, `_sync_ws` stays inside `/workspace`
exactly if no file that it attempts has a path that enters a name outside. -/
theorem sync_stays_inside_iff (client : Option String) (block : Workspace) (poolEnv : List (String × String)) :
    (∀ (σ : Type) (host : Host σ) (state : σ), StaysInside wsDir (syncWs host client block poolEnv wsDir state).touched) ↔
      (client ≠ none → ∀ file ∈ attempted wsDir block.files, Confined wsDir file.relativePath) := by
  cases client with
  | none =>
    refine ⟨fun _ wrong => absurd rfl wrong, fun _ σ host state touch member => ?_⟩
    cases member
  | some baseUrl =>
    constructor
    · classical
      intro inside _ file member
      by_contra escapes
      let has := fun url => decide (∃ relPath, ¬ Confined wsDir relPath ∧ (fileRequest baseUrl block poolEnv relPath).url = url)
      have has_iff : ∀ relPath, has (fileRequest baseUrl block poolEnv relPath).url = true ↔ ¬ Confined wsDir relPath := by
        intro relPath
        rw [decide_eq_true_iff]
        constructor
        · rintro ⟨other, escapes, same⟩
          exact fileRequest_url same ▸ escapes
        · exact fun escapes => ⟨relPath, escapes, rfl⟩
      exact syncFiles_escapes wsDir_absolute bareTree_clean has_iff member escapes (inside Tree (treeHost has) bareTree)
    · exact fun confined σ host state => syncFiles_inside (confined (by simp))

/-- The server sends a file of the workspace under `../etc/passwd`. -/
theorem parent_path_escapes :
    ¬ StaysInside wsDir (syncWs (treeHost fun _ => true) (some "http://pool") { files := [⟨"../etc/passwd"⟩] } [] wsDir
      someTree).touched := by
  intro inside
  have outside : ¬ Inside wsDir "/workspace/../etc/passwd".toList := by decide
  exact outside (inside (.opened "/workspace/../etc/passwd".toList) (by decide))

end ComputeCloudNode.NativeWorkbench
