import ComputeCloudNode.Llm.HubReads

/-! Calls whose downloads all succeed. Files are then only added to the cache directory,
whatever was read is still there, and every file that a call asks for is read. -/
namespace ComputeCloudNode.HubSource
open Std.Do

set_option mvcgen.warning false

variable {F Tensor : Type}

/-- The shared cache directory when a call starts, and what earlier calls have done. -/
structure Start where
  root : String
  files : List (String × CachedFile)
  history : List Entry

/-- Files are only added, open files are the ones in the directory, and what was read is
still there. -/
structure Kept (start : Start) (s : Session F) : Prop where
  rooted : s.source.cacheRoot = start.root
  grows : ∀ path found, start.files.lookup path = some found → s.files.lookup path = some found
  cache : ∀ filename found, s.source.cache.lookup filename = some found →
    s.files.lookup (s.source.cachePath filename) = some found
  reads : ∀ file found, .read file found ∈ start.history ++ s.log → s.files.lookup (file.path start.root) = some found

/-- Every file that was asked for was read, except this one. -/
def ReadBut (pending : HubFile → Prop) (log : List Entry) : Prop :=
  ∀ file, Asked log file → pending file ∨ ∃ found, .read file found ∈ log

/-- No file is about to be read. -/
structure Settled (start : Start) (s : Session F) : Prop where
  kept : Kept start s
  read : ReadBut (fun _ => False) (start.history ++ s.log)

/-- A file was asked for, and is about to be read. -/
structure Pending (start : Start) (filename : String) (s : Session F) : Prop where
  kept : Kept start s
  read : ReadBut (fun file => file = s.source.file filename) (start.history ++ s.log)

section

variable {start : Start} {log : List Entry} {s : Session F} {filename : String} {except : HubFile → Prop}

/-! ### Steps of a session -/

theorem Kept.path (kept : Kept start s) (filename : String) :
    s.source.cachePath filename = (s.source.file filename).path start.root := by
  rw [HFWeightsSource.cachePath, kept.rooted]

theorem Kept.note (kept : Kept start s) {entry : Entry}
    (held : ∀ file found, entry = .read file found → s.files.lookup (file.path start.root) = some found) :
    Kept start (s.note entry) where
  rooted := kept.rooted
  grows := kept.grows
  cache := kept.cache
  reads file found member := by
    rw [Session.history_note] at member
    rcases List.mem_append.mp member with old | new
    · exact kept.reads file found old
    · exact held file found (List.mem_singleton.mp new).symm

/-- A file is added. -/
theorem Kept.finish (kept : Kept start s) {dest : String} (absent : s.files.lookup dest = none)
    (added : CachedFile) : Kept start (s.finish dest added) := by
  have stays : ∀ path found, s.files.lookup path = some found →
      (Dicts.set dest added s.files).lookup path = some found := by
    intro path found held
    have differs : path ≠ dest := by
      rintro rfl
      rw [absent] at held
      cases held
    rw [Dicts.lookup_set_ne differs]
    exact held
  have noted : Kept start (s.note (.downloaded dest)) := kept.note nofun
  exact ⟨kept.rooted, fun path found held => stays path found (kept.grows path found held),
    fun filename found held => stays _ found (kept.cache filename found held),
    fun file found member => stays _ found (noted.reads file found member)⟩

theorem Kept.keepOpen (kept : Kept start s) {found : CachedFile}
    (held : s.files.lookup (s.source.cachePath filename) = some found) :
    Kept start (s.keepOpen filename found) := by
  refine ⟨kept.rooted, kept.grows, fun other opened open_ => ?_, kept.reads⟩
  simp only [Session.keepOpen] at open_
  by_cases same : other = filename
  · subst same
    rw [Dicts.lookup_set_self] at open_
    cases open_
    exact held
  · rw [Dicts.lookup_set_ne same] at open_
    exact kept.cache other opened open_

theorem ReadBut.snoc (read : ReadBut except log) {entry : Entry} {except' : HubFile → Prop}
    (still : ∀ file, except file → except' file ∨ ∃ found, entry = .read file found)
    (asks : ∀ file present, entry = .asked file present → except' file) : ReadBut except' (log ++ [entry]) := by
  rintro file ⟨present, member⟩
  rcases List.mem_append.mp member with old | new
  · rcases read file ⟨present, old⟩ with waiting | ⟨found, already⟩
    · rcases still file waiting with waiting | ⟨found, rfl⟩
      · exact .inl waiting
      · exact .inr ⟨found, List.mem_append_right _ List.mem_cons_self⟩
    · exact .inr ⟨found, List.mem_append_left _ already⟩
  · exact .inl (asks file present (List.mem_singleton.mp new).symm)

theorem Settled.ask (settled : Settled start s) (present : Bool) :
    Pending start filename (s.note (.asked (s.source.file filename) present)) := by
  refine ⟨settled.kept.note nofun, ?_⟩
  rw [Session.history_note]
  apply settled.read.snoc nofun
  intro file present same
  cases same
  rfl

theorem Pending.finish (waiting : Pending start filename s) {dest : String}
    (absent : s.files.lookup dest = none) (added : CachedFile) :
    Pending start filename (s.finish dest added) := by
  refine ⟨waiting.kept.finish absent added, ?_⟩
  have longer : start.history ++ (s.finish dest added).log = start.history ++ s.log ++ [.downloaded dest] :=
    (List.append_assoc ..).symm
  rw [longer]
  exact waiting.read.snoc (fun _ waiting => .inl waiting) nofun

/-- The file is read. -/
theorem Pending.note (waiting : Pending start filename s) {found : CachedFile}
    (held : s.files.lookup (s.source.cachePath filename) = some found) :
    Settled start (s.note (.read (s.source.file filename) found)) := by
  rw [waiting.kept.path filename] at held
  constructor
  · apply waiting.kept.note
    intro file opened same
    cases same
    exact held
  · rw [Session.history_note]
    refine waiting.read.snoc (fun file same => .inr ⟨found, ?_⟩) nofun
    rw [same]

theorem Settled.pending (settled : Settled start s) : Pending start filename s where
  kept := settled.kept
  read file asked := .inr ((settled.read file asked).resolve_left id)

theorem Settled.keepOpen (settled : Settled start s) {found : CachedFile}
    (held : s.files.lookup (s.source.cachePath filename) = some found) :
    Settled start (s.keepOpen filename found) :=
  ⟨settled.kept.keepOpen held, settled.read⟩

theorem Settled.setIndex (settled : Settled start s) (index : Dict F) :
    Settled start (s.setIndex index) :=
  ⟨⟨settled.kept.rooted, settled.kept.grows, settled.kept.cache, settled.kept.reads⟩, settled.read⟩

theorem Settled.setConfig (settled : Settled start s) (config : Value F) :
    Settled start (s.setConfig config) :=
  ⟨⟨settled.kept.rooted, settled.kept.grows, settled.kept.cache, settled.kept.reads⟩, settled.read⟩

/-! ### Methods -/

variable {hub : Hub F Tensor} {network : String → Download}

theorem cacheHas_settled (filename : String) :
    ⦃fun s => ⌜Settled start s⌝⦄
    (cacheHas filename : Call F Bool)
    ⦃post⟨fun present s => ⌜Pending start filename s ∧
        present = (s.files.lookup (s.source.cachePath filename)).isSome⌝, fun _ _ => ⌜False⌝⟩⦄ := by
  mvcgen [cacheHas]
  next s settled present => exact ⟨settled.ask present, rfl⟩

theorem download_settled (succeeds : ∀ url, network url = .complete) (source : HFWeightsSource F) (filename : String) :
    ⦃fun s => ⌜Pending start filename s ∧ s.files.lookup (source.cachePath filename) = none ∧
      s.source = source⌝⦄
    (download hub network (source.shardUrl filename) (source.cachePath filename) : Call F Unit)
    ⦃post⟨fun _ s => ⌜Pending start filename s ∧
        (s.files.lookup (s.source.cachePath filename)).isSome⌝, fun _ _ => ⌜False⌝⟩⦄ := by
  unfold download
  rw [succeeds]
  mvcgen
  next s before _ =>
    obtain ⟨waiting, absent, rfl⟩ := before
    refine ⟨waiting.finish absent _, ?_⟩
    exact Option.isSome_of_eq_some (Dicts.lookup_set_self _ _ _)

theorem fetch_settled (succeeds : ∀ url, network url = .complete) (filename : String) :
    ⦃fun s => ⌜Settled start s⌝⦄
    (fetch hub network (fun source => source.shardUrl filename) filename : Call F Unit)
    ⦃post⟨fun _ s => ⌜Pending start filename s ∧
        (s.files.lookup (s.source.cachePath filename)).isSome⌝, fun _ s => ⌜Settled start s⌝⟩⦄ := by
  mvcgen [fetch, cacheHas_settled, download_settled]
  next absent s before =>
    obtain ⟨waiting, known⟩ := before
    rw [known, Bool.not_eq_true', Option.isSome_eq_false_iff, Option.isNone_iff_eq_none] at absent
    exact ⟨waiting, absent⟩
  next => exact fun waiting found => ⟨waiting, found⟩
  next present s before =>
    obtain ⟨waiting, known⟩ := before
    rw [Bool.not_eq_true', Bool.not_eq_false, known] at present
    exact ⟨waiting, present⟩

theorem readFile_settled (filename : String) :
    ⦃fun s => ⌜Pending start filename s ∧ (s.files.lookup (s.source.cachePath filename)).isSome⌝⦄
    (readFile filename : Call F CachedFile)
    ⦃post⟨fun found s => ⌜Settled start s ∧
        s.files.lookup (s.source.cachePath filename) = some found⌝, fun _ s => ⌜Settled start s⌝⟩⦄ := by
  mvcgen [readFile]
  next s before found held => exact ⟨before.1.note held, held⟩
  next s before absent =>
    rw [absent] at before
    exact absurd before.2 (by decide)

theorem returnPath_settled (filename : String) :
    ⦃fun s => ⌜Pending start filename s ∧ (s.files.lookup (s.source.cachePath filename)).isSome⌝⦄
    (returnPath filename : Call F (Option String))
    ⦃post⟨fun _ s => ⌜Settled start s⌝, fun _ s => ⌜Settled start s⌝⟩⦄ := by
  mvcgen [returnPath]
  next s before _ found held => exact before.1.note held
  next s before _ absent =>
    rw [absent] at before
    exact absurd before.2 (by decide)

/-- Any call. -/
theorem session_settled (start : Start) (succeeds : ∀ url, network url = .complete) :
    SessionInvariant (F := F) hub network (Settled start)
      (fun filename s => Pending start filename s ∧ (s.files.lookup (s.source.cachePath filename)).isSome)
      (fun filename found s => s.files.lookup (s.source.cachePath filename) = some found) where
  fetch := fetch_settled succeeds
  readFile := readFile_settled
  returnPath := returnPath_settled
  reopen settled opened := settled.pending.note (settled.kept.cache _ _ opened)
  keepOpen settled held := settled.keepOpen held
  setIndex := Settled.setIndex
  setConfig := Settled.setConfig

/-! ### Runs -/

/-- Between two calls: what was asked for was read, and what was read is still there. -/
structure AllSettled (root : String) (log : List Entry) (state : State F) : Prop where
  sources : ∀ source ∈ state.sources, source.cacheRoot = root ∧ ∀ filename found,
    source.cache.lookup filename = some found → state.files.lookup (source.cachePath filename) = some found
  reads : ∀ file found, .read file found ∈ log → state.files.lookup (file.path root) = some found
  read : ReadBut (fun _ => False) log

theorem AllSettled.call {root : String} {state : State F} {index : Nat} {source : HFWeightsSource F} {method : Method}
    (succeeds : ∀ url, network url = .complete) (settled : AllSettled root log state)
    (chosen : state.sources[index]? = some source) :
    let after := ((method.call hub network : Call F (Returned F Tensor)).run.run
      { source, files := state.files, log := [] }).2
    AllSettled root (log ++ after.log) { sources := state.sources.set index after.source, files := after.files } := by
  intro after
  obtain ⟨rooted, cache⟩ := settled.sources source (List.mem_of_getElem? chosen)
  have before : Settled ⟨root, state.files, log⟩ { source, files := state.files, log := [] } := by
    refine ⟨⟨rooted, fun _ _ held => held, cache, fun file found member => ?_⟩, ?_⟩
    · rw [List.append_nil] at member
      exact settled.reads file found member
    · rw [List.append_nil]
      exact settled.read
  have ended : Settled ⟨root, state.files, log⟩ after := (session_settled _ succeeds).after before method
  refine ⟨fun other member => ?_, ended.kept.reads, ended.read⟩
  rcases List.mem_or_eq_of_mem_set member with old | same
  · obtain ⟨rooted, cache⟩ := settled.sources other old
    exact ⟨rooted, fun filename found held => ended.kept.grows _ found (cache filename found held)⟩
  · rw [same]
    exact ⟨ended.kept.rooted, ended.kept.cache⟩

variable [PyRuntime F]

/-- A run of any calls whose downloads all succeed. -/
theorem run_settled {root : String} {labels : List Label} {state : State F} {outputs : List (Output F Tensor)}
    (succeeds : ∀ index method network, .call index method network ∈ labels → ∀ url, network url = .complete)
    (ran : Runs.run (step hub root) {} labels = some (state, outputs)) : AllSettled root (entries outputs) state := by
  refine run_calls (J := AllSettled root) ⟨nofun, nofun, fun file ⟨_, asked⟩ => nomatch asked⟩ ?_ ?_ succeeds ran
  · intro log state next settled files created
    refine ⟨fun source member => ?_, ?_, settled.read⟩
    · rw [files]
      rcases created source member with old | ⟨rooted, closed⟩
      · exact settled.sources source old
      · refine ⟨rooted, fun filename found held => ?_⟩
        rw [closed] at held
        cases held
    · rw [files]
      exact settled.reads
  · intro log state index source network method succeeds settled chosen
    exact settled.call succeeds chosen

end

end ComputeCloudNode.HubSource
