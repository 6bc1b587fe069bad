import ComputeCloudNode.Lib.Memo
import ComputeCloudNode.Llm.Executor
import ComputeCloudNode.Llm.HubSource

/-! `LocalWeightsSource`: the weights in a directory, one file or an index of several. It
remembers what it has read: the index, the keys, the config and the open files. As long
as the directory does not change, it answers every call as if it remembered nothing. -/
namespace ComputeCloudNode.LocalSource
open Memo HubSource LLMShardExecutor Weights

variable {F Tensor : Type}

/-- `json` and `safetensors`, reading the bytes of a file. -/
structure Formats (F Tensor : Type) where
  loadJson : List UInt8 → Except String (Value F)
  /-- `safe_open`, up to the keys of the file. -/
  safeOpen : List UInt8 → Except String (List String)
  getTensor : List UInt8 → String → Except String Tensor

/-- The directory and the files on disk. -/
structure Disk where
  dir : String
  files : List (String × List UInt8)

def Disk.read (disk : Disk) (filename : String) : Option (List UInt8) := disk.files.lookup (joinPath disk.dir filename)

/-- `LocalWeightsSource`, but for its directory. -/
structure LocalWeightsSource (F : Type) where
  index : Option (Dict F) := none
  config : Value F := .null
  allKeys : Option (List String) := none
  /-- The open files. -/
  cache : List (String × List UInt8) := []

section Methods

variable (formats : Formats F Tensor) (disk : Disk)

/-- `_safe_open`. -/
def safeOpen (filename : String) : Call (LocalWeightsSource F) String (List UInt8) :=
  memo (fun source => source.cache.lookup filename)
    (fun content source => { source with cache := (filename, content) :: source.cache }) <|
    match disk.read filename with
    | none => throw ("safetensors file not found: " ++ joinPath disk.dir filename)
    | some content => do
      let _ ← orRaise (formats.safeOpen content)
      return content

/-- `_ensure_index`, and the index. -/
def ensureIndex : Call (LocalWeightsSource F) String (Dict F) :=
  memo LocalWeightsSource.index (fun index source => { source with index := some index }) <|
    if (disk.read "model.safetensors").isSome then do
      let content ← safeOpen formats disk "model.safetensors"
      let keys ← orRaise (formats.safeOpen content)
      return keys.map fun key => (key, .str "model.safetensors")
    else
      match disk.read "model.safetensors.index.json" with
      | some content => orRaise (formats.loadJson content >>= weightMap)
      | none => throw ("no safetensors in " ++ disk.dir)

/-- `list_keys`. -/
def listKeys : Call (LocalWeightsSource F) String (List String) := do
  let index ← ensureIndex formats disk
  memo LocalWeightsSource.allKeys (fun keys source => { source with allKeys := some keys }) <|
    return index.map Prod.fst

/-- The file that an index names. -/
def indexedFile (index : Dict F) (key : String) : Except String String :=
  match index.lookup key with
  | none | some .null => .error ("key not found: " ++ key)
  | some (.str filename) => .ok filename
  | some (.list _) => .error "unhashable type: 'list'"
  | some (.dict _) => .error "unhashable type: 'dict'"
  | some v => .error ("join() argument must be str, bytes, or os.PathLike object, not '" ++ v.typeName ++ "'")

/-- `get_tensor`. -/
def getTensor (key : String) : Call (LocalWeightsSource F) String Tensor := do
  let index ← ensureIndex formats disk
  let filename ← orRaise (indexedFile index key)
  let content ← safeOpen formats disk filename
  orRaise (formats.getTensor content key)

/-- `get_config`. -/
def getConfig : Call (LocalWeightsSource F) String (Dict F) := do
  let config ← memo (fun source => if source.config.isNone then none else some source.config)
    (fun config source => { source with config := config }) <|
    match disk.read "config.json" with
    | some content => orRaise (formats.loadJson content)
    | none => return .dict []
  orRaise (asDict config)

/-- `get_tokenizer_path`. -/
def getTokenizerPath : Call (LocalWeightsSource F) String (Option String) :=
  return if (disk.read "tokenizer.json").isSome then some (joinPath disk.dir "tokenizer.json") else none

def call : Method → Call (LocalWeightsSource F) String (Returned F Tensor)
  | .listKeys => return .keys (← listKeys formats disk)
  | .getTensor key => return .tensor (← getTensor formats disk key)
  | .getConfig => return .config (← getConfig formats disk)
  | .getTokenizerPath => return .path (← getTokenizerPath disk)

end Methods

/-! ### Without remembering -/

section Uncached

variable (formats : Formats F Tensor) (disk : Disk)

def openFile (filename : String) : Except String (List UInt8) :=
  match disk.read filename with
  | none => .error ("safetensors file not found: " ++ joinPath disk.dir filename)
  | some content => do
    let _ ← formats.safeOpen content
    return content

def readIndex : Except String (Dict F) :=
  if (disk.read "model.safetensors").isSome then do
    let content ← openFile formats disk "model.safetensors"
    let keys ← formats.safeOpen content
    return keys.map fun key => (key, .str "model.safetensors")
  else
    match disk.read "model.safetensors.index.json" with
    | some content => formats.loadJson content >>= weightMap
    | none => .error ("no safetensors in " ++ disk.dir)

def readConfig : Except String (Value F) :=
  match disk.read "config.json" with
  | some content => formats.loadJson content
  | none => .ok (.dict [])

/-- The directory as a weights source. -/
def uncached : ModelSource (Value F) Tensor where
  listKeys := return (← readIndex formats disk).map Prod.fst
  getTensor key := do
    let filename ← indexedFile (← readIndex formats disk) key
    let content ← openFile formats disk filename
    formats.getTensor content key
  getConfig := do asDict (← readConfig formats disk)
  getTokenizerPath :=
    .ok (if (disk.read "tokenizer.json").isSome then some (joinPath disk.dir "tokenizer.json") else none)

def uncachedCall : Method → Except String (Returned F Tensor)
  | .listKeys => return .keys (← (uncached formats disk).listKeys)
  | .getTensor key => return .tensor (← (uncached formats disk).getTensor key)
  | .getConfig => return .config (← (uncached formats disk).getConfig)
  | .getTokenizerPath => return .path (← (uncached formats disk).getTokenizerPath)

/-- Everything that is remembered is what is on the disk. -/
structure Current (source : LocalWeightsSource F) : Prop where
  index : ∀ index, source.index = some index → readIndex formats disk = .ok index
  allKeys : ∀ keys, source.allKeys = some keys → ∃ index, readIndex formats disk = .ok index ∧ keys = index.map Prod.fst
  config : source.config.isNone = false → readConfig formats disk = .ok source.config
  cache : ∀ filename content, source.cache.lookup filename = some content → openFile formats disk filename = .ok content

variable {formats disk}

theorem safeOpen_answers (filename : String) :
    Answers (Current formats disk) (safeOpen formats disk filename) (openFile formats disk filename) := by
  apply Answers.memo
  · unfold openFile
    cases disk.read filename with
    | none => exact .orRaise (.error _)
    | some content => exact .bind (.orRaise _) fun _ _ => .orRaise (.ok content)
  · exact fun source content current held => current.cache filename content held
  · intro source content current opened
    refine { current with cache := fun other found held => ?_ }
    by_cases same : other = filename
    · subst same
      rw [List.lookup_cons_self] at held
      cases held
      exact opened
    · rw [List.lookup_cons, beq_false_of_ne same] at held
      exact current.cache other found held

theorem ensureIndex_answers :
    Answers (Current formats disk) (ensureIndex formats disk) (readIndex formats disk) := by
  apply Answers.memo
  · unfold readIndex
    split
    next => exact .bind (safeOpen_answers _) fun _ _ => .bind (.orRaise _) fun _ _ => .orRaise (.ok _)
    next =>
      cases disk.read "model.safetensors.index.json" with
      | none => exact .orRaise (.error _)
      | some content => exact .orRaise _
  · exact fun source index current held => current.index index held
  · intro source index current read
    refine { current with index := fun other held => ?_ }
    cases held
    exact read

theorem listKeys_answers : Answers (Current formats disk) (listKeys formats disk) (uncached formats disk).listKeys := by
  refine .bind ensureIndex_answers fun index read => ?_
  apply Answers.memo (.orRaise (.ok _))
  · intro source keys current held
    obtain ⟨other, same, rfl⟩ := current.allKeys keys held
    cases read.symm.trans same
    rfl
  · intro source keys current listed
    refine { current with allKeys := fun other held => ⟨index, read, ?_⟩ }
    cases held
    exact (Except.ok.inj listed).symm

theorem getTensor_answers (key : String) :
    Answers (Current formats disk) (getTensor formats disk key) ((uncached formats disk).getTensor key) :=
  .bind ensureIndex_answers fun _ _ => .bind (.orRaise _) fun _ _ => .bind (safeOpen_answers _) fun _ _ => .orRaise _

theorem getConfig_answers : Answers (Current formats disk) (getConfig formats disk) (uncached formats disk).getConfig := by
  refine .bind (Answers.memo ?_ ?_ ?_) fun config _ => .orRaise (asDict config)
  · unfold readConfig
    cases disk.read "config.json" with
    | none => exact .orRaise (.ok _)
    | some content => exact .orRaise _
  · intro source config current held
    split at held
    next => cases held
    next some_ =>
      cases held
      exact current.config (Bool.not_eq_true _ ▸ some_)
  · intro source config current read
    exact { current with config := fun _ => read }

theorem call_answers (method : Method) :
    Answers (Current formats disk) (call formats disk method) (uncachedCall formats disk method) := by
  cases method with
  | listKeys => exact .bind listKeys_answers fun _ _ => .orRaise (.ok _)
  | getTensor key => exact .bind (getTensor_answers key) fun _ _ => .orRaise (.ok _)
  | getConfig => exact .bind getConfig_answers fun _ _ => .orRaise (.ok _)
  | getTokenizerPath => exact .bind (.orRaise (.ok _)) fun _ _ => .orRaise (.ok _)

theorem current_new : Current formats disk ({} : LocalWeightsSource F) where
  index _ held := nomatch held
  allKeys _ held := nomatch held
  config some_ := nomatch some_
  cache _ _ held := nomatch held

/-- Whatever is called on a new source, and in which order, every call gives what it
would give on a source of its own that remembers nothing. -/
theorem remembering_transparent (formats : Formats F Tensor) (disk : Disk) (methods : List Method) :
    (Mealy.run (fun source method => answer (call formats disk method) source) {} methods).1 =
      methods.map (uncachedCall formats disk) :=
  run_answers call_answers current_new methods

end Uncached

end ComputeCloudNode.LocalSource
