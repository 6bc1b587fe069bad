import ComputeCloudNode.Lib.Traces
import ComputeCloudNode.Llm.HubCalls

/-! Where the files that a source reads come from. `Origin` is anything that holds of a
file once a download has written it, and goes on to hold; then it holds of every file
that is in the cache directory, open, or read, whatever the calls and the network do. -/
namespace ComputeCloudNode.HubSource
open Std.Do

set_option mvcgen.warning false

variable {F Tensor : Type}

/-- Some call has asked for the file. -/
def Asked (log : List Entry) (file : HubFile) : Prop := ∃ present, .asked file present ∈ log

/-- What downloads leave under the path of a file has this origin, and keeps it. -/
structure Origins (root : String) (hub : Hub F Tensor) (network : String → Download)
    (Origin : List Entry → String → CachedFile → Prop) : Prop where
  snoc : ∀ {log path found}, Origin log path found → ∀ entry, Origin (log ++ [entry]) path found
  broken : ∀ {log file chunks text}, Asked log file → network file.url = .broken chunks text →
    Origin (log ++ [.broke (file.path root)]) (file.path root) ⟨file.url, firstChunks chunks (hub.remote file.url)⟩
  complete : ∀ {log file}, Asked log file → network file.url = .complete →
    Origin (log ++ [.downloaded (file.path root)]) (file.path root) ⟨file.url, hub.remote file.url⟩

/-- A file that is found or read has an origin, and a file that is read was asked for. -/
def Justified (root : String) (Origin : List Entry → String → CachedFile → Prop) (early : List Entry) : Entry → Prop
  | .asked file present => present → ∃ found, Origin early (file.path root) found
  | .downloaded _ | .broke _ => True
  | .read file found => Origin early (file.path root) found ∧ Asked early file

/-- The open files of a source have an origin. -/
structure SourceTraced (root : String) (Origin : List Entry → String → CachedFile → Prop) (log : List Entry)
    (source : HFWeightsSource F) : Prop where
  root : source.cacheRoot = root
  cache : ∀ filename found, source.cache.lookup filename = some found →
    Origin log (source.cachePath filename) found ∧ Asked log (source.file filename)

/-- The files of the cache directory have an origin, and so did those found or read. -/
structure DirectoryTraced (root : String) (Origin : List Entry → String → CachedFile → Prop) (log : List Entry)
    (files : List (String × CachedFile)) : Prop where
  files : ∀ path found, files.lookup path = some found → Origin log path found
  log : Traces.Each (Justified root Origin) log

/-- Both, in the middle of a call after these entries. -/
structure Traced (root : String) (Origin : List Entry → String → CachedFile → Prop) (history : List Entry)
    (s : Session F) : Prop where
  source : SourceTraced root Origin (history ++ s.log) s.source
  directory : DirectoryTraced root Origin (history ++ s.log) s.files

section

variable {root : String} {hub : Hub F Tensor} {network : String → Download}
  {Origin : List Entry → String → CachedFile → Prop} {history log : List Entry} {s : Session F} {file : HubFile}

theorem Asked.snoc (asked : Asked log file) (entry : Entry) : Asked (log ++ [entry]) file := by
  obtain ⟨present, member⟩ := asked
  exact ⟨present, List.mem_append_left _ member⟩

/-! ### Steps of a session -/

theorem SourceTraced.snoc {source : HFWeightsSource F} (origins : Origins root hub network Origin)
    (traced : SourceTraced root Origin log source) (entry : Entry) : SourceTraced root Origin (log ++ [entry]) source where
  root := traced.root
  cache filename found held := by
    obtain ⟨origin, asked⟩ := traced.cache filename found held
    exact ⟨origins.snoc origin entry, asked.snoc entry⟩

theorem Session.history_note (entry : Entry) : history ++ (s.note entry).log = history ++ s.log ++ [entry] :=
  (List.append_assoc ..).symm

theorem Asked.note (asked : Asked (history ++ s.log) file) (entry : Entry) :
    Asked (history ++ (s.note entry).log) file := by
  rw [Session.history_note]
  exact asked.snoc entry

theorem Traced.note (origins : Origins root hub network Origin) (traced : Traced root Origin history s) {entry : Entry}
    (justified : Justified root Origin (history ++ s.log) entry) : Traced root Origin history (s.note entry) := by
  constructor
  · rw [Session.history_note]
    exact traced.source.snoc origins entry
  · rw [Session.history_note]
    refine ⟨fun path found held => ?_, Traces.each_snoc.mpr ⟨traced.directory.log, justified⟩⟩
    exact origins.snoc (traced.directory.files path found held) entry

theorem Traced.path (traced : Traced root Origin history s) (filename : String) :
    s.source.cachePath filename = (s.source.file filename).path root := by
  rw [HFWeightsSource.cachePath, traced.source.root]

theorem Traced.write (origins : Origins root hub network Origin) (traced : Traced root Origin history s) {dest : String}
    {found : CachedFile} {entry : Entry} (harmless : Justified root Origin (history ++ s.log) entry)
    (origin : Origin (history ++ s.log ++ [entry]) dest found) : Traced root Origin history (s.write dest found entry) := by
  have noted := traced.note origins harmless
  refine ⟨⟨noted.source.root, noted.source.cache⟩, fun path other held => ?_, noted.directory.log⟩
  unfold Session.write at held
  by_cases same : path = dest
  · subst same
    rw [Dicts.lookup_set_self] at held
    cases held
    rw [← Session.history_note] at origin
    exact origin
  · rw [Dicts.lookup_set_ne same] at held
    exact noted.directory.files path other held

theorem Traced.finish (origins : Origins root hub network Origin) (traced : Traced root Origin history s) {dest : String}
    {found : CachedFile} (origin : Origin (history ++ s.log ++ [.downloaded dest]) dest found) :
    Traced root Origin history (s.finish dest found) := by
  have harmless : Justified root Origin (history ++ s.log) (.downloaded dest) := trivial
  have written := traced.write origins harmless origin
  exact ⟨⟨written.source.root, written.source.cache⟩, written.directory⟩

theorem Traced.keepOpen (traced : Traced root Origin history s) {filename : String} {found : CachedFile}
    (origin : Origin (history ++ s.log) (s.source.cachePath filename) found)
    (asked : Asked (history ++ s.log) (s.source.file filename)) :
    Traced root Origin history (s.keepOpen filename found) := by
  refine ⟨⟨traced.source.root, fun other opened held => ?_⟩, traced.directory⟩
  simp only [Session.keepOpen] at held
  by_cases same : other = filename
  · subst same
    rw [Dicts.lookup_set_self] at held
    cases held
    exact ⟨origin, asked⟩
  · rw [Dicts.lookup_set_ne same] at held
    exact traced.source.cache other opened held

/-- A source forgets or learns what does not concern its files. -/
theorem Traced.setIndex (traced : Traced root Origin history s) (index : Dict F) :
    Traced root Origin history (s.setIndex index) :=
  ⟨⟨traced.source.root, traced.source.cache⟩, traced.directory⟩

theorem Traced.setConfig (traced : Traced root Origin history s) (config : Value F) :
    Traced root Origin history (s.setConfig config) :=
  ⟨⟨traced.source.root, traced.source.cache⟩, traced.directory⟩

/-! ### Methods -/

theorem cacheHas_spec (origins : Origins root hub network Origin) (filename : String) :
    ⦃fun s => ⌜Traced root Origin history s⌝⦄
    (cacheHas filename : Call F Bool)
    ⦃post⟨fun _ s => ⌜Traced root Origin history s ∧ Asked (history ++ s.log) (s.source.file filename)⌝,
      fun _ s => ⌜Traced root Origin history s⌝⟩⦄ := by
  mvcgen [cacheHas]
  next s traced present =>
    refine ⟨traced.note origins fun found => ?_, present, ?_⟩
    · obtain ⟨file, held⟩ := Option.isSome_iff_exists.mp found
      rw [traced.path filename] at held
      exact ⟨file, traced.directory.files _ file held⟩
    · exact List.mem_append_right _ (List.mem_append_right _ List.mem_cons_self)

theorem download_spec (origins : Origins root hub network Origin) (source : HFWeightsSource F) (filename : String) :
    ⦃fun s => ⌜Traced root Origin history s ∧ Asked (history ++ s.log) (s.source.file filename) ∧ s.source = source⌝⦄
    (download hub network (source.shardUrl filename) (source.cachePath filename) : Call F Unit)
    ⦃post⟨fun _ s => ⌜Traced root Origin history s ∧ Asked (history ++ s.log) (s.source.file filename)⌝,
      fun _ s => ⌜Traced root Origin history s⌝⟩⦄ := by
  mvcgen [download]
  next before => exact before.1
  next chunks text broken s before _ =>
    obtain ⟨traced, asked, rfl⟩ := before
    have origin := origins.broken asked broken
    rw [← traced.path filename] at origin
    have harmless : Justified root Origin (history ++ s.log) (.broke (s.source.cachePath filename)) := trivial
    exact traced.write origins harmless origin
  next complete s before _ =>
    obtain ⟨traced, asked, rfl⟩ := before
    have origin := origins.complete asked complete
    rw [← traced.path filename] at origin
    exact ⟨traced.finish origins origin, asked.note (.downloaded (s.source.cachePath filename))⟩

theorem readFile_spec (origins : Origins root hub network Origin) (filename : String) :
    ⦃fun s => ⌜Traced root Origin history s ∧ Asked (history ++ s.log) (s.source.file filename)⌝⦄
    (readFile filename : Call F CachedFile)
    ⦃post⟨fun found s => ⌜Traced root Origin history s ∧ Asked (history ++ s.log) (s.source.file filename) ∧
        Origin (history ++ s.log) (s.source.cachePath filename) found⌝,
      fun _ s => ⌜Traced root Origin history s⌝⟩⦄ := by
  mvcgen [readFile]
  next s before found held =>
    obtain ⟨traced, asked⟩ := before
    have origin := traced.directory.files _ found held
    refine ⟨traced.note origins ⟨?_, asked⟩, ?_, ?_⟩
    · rw [← traced.path filename]
      exact origin
    · exact asked.note _
    · rw [Session.history_note]
      exact origins.snoc origin _
  next before absent => exact before.1

theorem fetch_spec (origins : Origins root hub network Origin) (filename : String) :
    ⦃fun s => ⌜Traced root Origin history s⌝⦄
    (fetch hub network (fun source => source.shardUrl filename) filename : Call F Unit)
    ⦃post⟨fun _ s => ⌜Traced root Origin history s ∧ Asked (history ++ s.log) (s.source.file filename)⌝,
      fun _ s => ⌜Traced root Origin history s⌝⟩⦄ := by
  mvcgen [fetch, cacheHas_spec, download_spec]
  next before => exact before

theorem returnPath_spec (origins : Origins root hub network Origin) (filename : String) :
    ⦃fun s => ⌜Traced root Origin history s ∧ Asked (history ++ s.log) (s.source.file filename)⌝⦄
    (returnPath filename : Call F (Option String))
    ⦃post⟨fun _ s => ⌜Traced root Origin history s⌝, fun _ s => ⌜Traced root Origin history s⌝⟩⦄ := by
  mvcgen [returnPath]
  next s before _ found held =>
    obtain ⟨traced, asked⟩ := before
    have origin := traced.directory.files _ found held
    rw [traced.path filename] at origin
    exact traced.note origins ⟨origin, asked⟩
  next before _ _ => exact before.1

/-- Any call. -/
theorem session_traced (history : List Entry) (origins : Origins root hub network Origin) :
    SessionInvariant (F := F) hub network (Traced root Origin history)
      (fun filename s => Traced root Origin history s ∧ Asked (history ++ s.log) (s.source.file filename))
      (fun filename found s => Asked (history ++ s.log) (s.source.file filename) ∧
        Origin (history ++ s.log) (s.source.cachePath filename) found) where
  fetch := fetch_spec origins
  readFile := readFile_spec origins
  returnPath := returnPath_spec origins
  reopen {s filename found} traced held := by
    obtain ⟨origin, asked⟩ := traced.source.cache filename found held
    refine traced.note origins ⟨?_, asked⟩
    rw [← traced.path filename]
    exact origin
  keepOpen traced found := traced.keepOpen found.2 found.1
  setIndex := Traced.setIndex
  setConfig := Traced.setConfig

/-! ### Runs -/

/-- The sources and the cache directory, after these entries. -/
structure AllTraced (root : String) (Origin : List Entry → String → CachedFile → Prop) (log : List Entry)
    (state : State F) : Prop where
  sources : ∀ source ∈ state.sources, SourceTraced root Origin log source
  directory : DirectoryTraced root Origin log state.files

theorem SourceTraced.append {source : HFWeightsSource F} (origins : Origins root hub network Origin)
    (traced : SourceTraced root Origin log source) (later : List Entry) :
    SourceTraced root Origin (log ++ later) source := by
  induction later using List.reverseRecOn with
  | nil => rwa [List.append_nil]
  | append_singleton later entry ih =>
    rw [← List.append_assoc]
    exact ih.snoc origins entry

/-- One call. -/
theorem AllTraced.call {state : State F} {index : Nat} {source : HFWeightsSource F} {method : Method}
    (origins : Origins root hub network Origin) (traced : AllTraced root Origin log state)
    (chosen : state.sources[index]? = some source) :
    let after := ((method.call hub network : Call F (Returned F Tensor)).run.run { source, files := state.files, log := [] }).2
    AllTraced root Origin (log ++ after.log) { sources := state.sources.set index after.source, files := after.files } := by
  intro after
  have before : Traced root Origin log { source, files := state.files, log := [] } := by
    constructor
    · rw [List.append_nil]
      exact traced.sources source (List.mem_of_getElem? chosen)
    · rw [List.append_nil]
      exact traced.directory
  have ended : Traced root Origin log after := (session_traced log origins).after before method
  refine ⟨fun other member => ?_, ended.directory⟩
  rcases List.mem_or_eq_of_mem_set member with old | same
  · exact (traced.sources other old).append origins after.log
  · rw [same]
    exact ended.source

variable [PyRuntime F] {state : State F}

/-- A run of any calls, on any network that keeps the origin. -/
theorem run_traced {labels : List Label} {outputs : List (Output F Tensor)}
    (origins : ∀ index method network, .call index method network ∈ labels → Origins root hub network Origin)
    (ran : Runs.run (step hub root) {} labels = some (state, outputs)) : AllTraced root Origin (entries outputs) state := by
  refine run_calls (J := AllTraced root Origin) ⟨nofun, nofun, Traces.each_nil⟩ ?_ ?_ origins ran
  · intro log state next traced files created
    refine ⟨fun source member => ?_, ?_⟩
    · rcases created source member with old | ⟨rooted, closed⟩
      · exact traced.sources source old
      · refine ⟨rooted, fun filename found held => ?_⟩
        rw [closed] at held
        cases held
    · rw [files]
      exact traced.directory
  · intro log state index source network method origins traced chosen
    exact traced.call origins chosen

end

/-- Every file of this Hub is an empty JSON object. -/
def emptyObjects : Hub Int Unit where
  remote _ := [0x7b, 0x7d]
  loadJson _ := .ok (.dict [])
  safeOpen _ := .error "Error while deserializing header: HeaderTooSmall"
  getTensor _ key := .error s!"File does not contain tensor {key}"

end ComputeCloudNode.HubSource
