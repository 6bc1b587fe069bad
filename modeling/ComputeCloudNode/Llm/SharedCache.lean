import ComputeCloudNode.Llm.SettledCache

/-! Sources that share a cache directory. The cache path of a file leaves out the
revision and merges characters, so a source may find a file that another one, or it
itself, has downloaded from a different URL. -/
namespace ComputeCloudNode.HubSource

variable {F Tensor : Type} {root : String} {hub : Hub F Tensor} {network : String → Download} {log : List Entry}

/-- Files that were asked for and share a cache path have the same URL. -/
def PathsApart (root : String) (log : List Entry) : Prop :=
  ∀ file other, Asked log file → Asked log other → file.path root = other.path root → file.url = other.url

/-- The file at a path was downloaded from the URL of some file with that path. -/
def FromPath (root : String) (log : List Entry) (path : String) (found : CachedFile) : Prop :=
  ∃ file, Asked log file ∧ file.path root = path ∧ found.url = file.url

theorem fromPath_origins : Origins root hub network (FromPath root) where
  snoc origin entry := by
    obtain ⟨file, asked, path, url⟩ := origin
    exact ⟨file, asked.snoc entry, path, url⟩
  broken asked _ := ⟨_, asked.snoc _, rfl, rfl⟩
  complete asked _ := ⟨_, asked.snoc _, rfl, rfl⟩

theorem Asked.of_early {file : HubFile} {early late : List Entry} (asked : Asked early file)
    (split : log = early ++ late) : Asked log file := by
  obtain ⟨present, member⟩ := asked
  exact ⟨present, by rw [split]; exact List.mem_append_left _ member⟩

variable [PyRuntime F] {labels : List Label} {state : State F} {outputs : List (Output F Tensor)}

/-- In a run whose files are kept apart by their paths, every file that a source reads was
downloaded from the URL of exactly the file that was asked for. -/
theorem reads_own_files (ran : Runs.run (step hub root) {} labels = some (state, outputs))
    (apart : PathsApart root (entries outputs)) {file : HubFile} {found : CachedFile}
    (read : .read file found ∈ entries outputs) : found.url = file.url := by
  have traced := run_traced (fun _ _ _ _ => fromPath_origins) ran
  obtain ⟨early, late, split⟩ := List.append_of_mem read
  obtain ⟨⟨other, askedOther, path, url⟩, asked⟩ := traced.directory.log early _ late split
  rw [url]
  exact apart other file (askedOther.of_early split) (asked.of_early split) path

/-- In a run whose downloads all succeed, every file that a source reads was downloaded from
the URL of exactly the file that was asked for, if and only if the files of the run are
kept apart by their paths. -/
theorem reads_own_files_iff
    (succeeds : ∀ index method network, .call index method network ∈ labels → ∀ url, network url = .complete)
    (ran : Runs.run (step hub root) {} labels = some (state, outputs)) :
    (∀ file found, .read file found ∈ entries outputs → found.url = file.url) ↔ PathsApart root (entries outputs) := by
  constructor
  · intro own file other asked askedOther path
    have settled := run_settled succeeds ran
    obtain ⟨found, read⟩ := (settled.read file asked).resolve_left id
    obtain ⟨foundOther, readOther⟩ := (settled.read other askedOther).resolve_left id
    -- Both are the one file that is at this path at the end.
    have held := settled.reads file found read
    rw [path, settled.reads other foundOther readOther, Option.some.injEq] at held
    rw [← own file found read, ← own other foundOther readOther, held]
  · intro apart file found read
    exact reads_own_files ran apart read

/-! ### Two revisions of a model -/

def succeeds (_ : String) : Download := .complete

def mainConfig : HubFile := ⟨"org/model", "main", "config.json"⟩

def secondConfig : HubFile := ⟨"org/model", "v2", "config.json"⟩

def cachedConfig : CachedFile := ⟨mainConfig.url, [0x7b, 0x7d]⟩

/-- Two sources, one for each revision, read their configs. -/
def twoRevisions : List Label :=
  [.create "hf://org/model", .create "hf://org/model@v2", .call 0 .getConfig succeeds, .call 1 .getConfig succeeds]

theorem second_revision_reads_first :
    ∃ state outputs, Runs.run (step emptyObjects "cache") {} twoRevisions = some (state, outputs) ∧
      .read secondConfig cachedConfig ∈ entries outputs ∧ cachedConfig.url ≠ secondConfig.url := by
  have reads : (Runs.run (step emptyObjects "cache") {} twoRevisions).map
      (fun ran => decide (.read secondConfig cachedConfig ∈ entries ran.2)) = some true := by
    decide +kernel
  obtain ⟨⟨state, outputs⟩, ran, member⟩ := Option.map_eq_some_iff.mp reads
  exact ⟨state, outputs, ran, of_decide_eq_true member, by decide +kernel⟩

/-- One source reads its config and returns its tokenizer. -/
def oneRevision : List Label :=
  [.create "hf://org/model", .call 0 .getConfig succeeds, .call 0 .getTokenizerPath succeeds]

theorem reads_own_files_iff_one_revision :
    ∃ state outputs, Runs.run (step emptyObjects "cache") {} oneRevision = some (state, outputs) ∧
      .read mainConfig cachedConfig ∈ entries outputs ∧
      ((∀ file found, .read file found ∈ entries outputs → found.url = file.url) ↔
        PathsApart "cache" (entries outputs)) := by
  have reads : (Runs.run (step emptyObjects "cache") {} oneRevision).map
      (fun ran => decide (.read mainConfig cachedConfig ∈ entries ran.2)) = some true := by
    decide +kernel
  obtain ⟨⟨state, outputs⟩, ran, member⟩ := Option.map_eq_some_iff.mp reads
  refine ⟨state, outputs, ran, of_decide_eq_true member, reads_own_files_iff (fun index method network call url => ?_) ran⟩
  simp only [oneRevision, List.mem_cons, reduceCtorEq, false_or, Label.call.injEq, List.not_mem_nil, or_false] at call
  obtain ⟨_, _, rfl⟩ | ⟨_, _, rfl⟩ := call
  · rfl
  · rfl

end ComputeCloudNode.HubSource
