import ComputeCloudNode.Lib.Runs
import ComputeCloudNode.Llm.HfUri

/-! `HFWeightsSource`: the files of a model, downloaded from the Hub into a cache
directory that several sources may share. A source looks for a file under its cache
path, downloads it when it is not there, and reads what it finds. What the Hub serves
is fixed; how far a download comes is up to the network.

Left out: the limit `max_cache_bytes`, which nothing reads, and a config or a weight map
that is a list of pairs, which `dict` would take as well. -/
namespace ComputeCloudNode.HubSource

variable {F Tensor : Type}

/-- A file on the Hub: what a source asks for. -/
structure HubFile where
  modelId : String
  revision : String
  filename : String
  deriving DecidableEq

/-- A file of the cache directory, together with the URL that it was downloaded from,
which the directory does not say. -/
structure CachedFile where
  url : String
  content : List UInt8
  deriving DecidableEq

/-- `HFWeightsSource`. -/
structure HFWeightsSource (F : Type) where
  modelId : String
  revision : String
  cacheRoot : String
  cacheSize : Nat := 0
  /-- The files that are open. -/
  cache : List (String × CachedFile) := []
  index : Option (Dict F) := none
  config : Value F := .null

/-- What the Hub serves, and how its files are read. -/
structure Hub (F Tensor : Type) where
  remote : String → List UInt8
  /-- `json.load`. -/
  loadJson : List UInt8 → Except String (Value F)
  /-- `safe_open`, up to the keys of the file. -/
  safeOpen : List UInt8 → Except String (List String)
  getTensor : List UInt8 → String → Except String Tensor

/-- How a download goes. -/
inductive Download
  /-- It raises before the file is opened. -/
  | refused (text : String)
  /-- It raises after some chunks were written. -/
  | broken (chunks : Nat) (text : String)
  | complete
  deriving DecidableEq

/-! ### Names -/

/-- `re.sub(r"[^A-Za-z0-9._-]", "_", filename)`. -/
def safeName (filename : String) : String :=
  String.ofList (filename.toList.map fun c => if HfUri.isNameChar c then c else '_')

/-- `os.path.join`. -/
def joinPath (root name : String) : String :=
  if Uri.startsWith name.toList "/" then name
  else if root = "" ∨ root.toList.getLast? = some '/' then root ++ name
  else root ++ "/" ++ name

/-- The path of a file in the cache directory. -/
def HubFile.path (root : String) (file : HubFile) : String :=
  joinPath root (String.ofList (file.modelId.toList.map fun c => if c = '/' then '_' else c) ++ "_" ++
    safeName file.filename)

def HubFile.url (file : HubFile) : String :=
  s!"https://huggingface.co/{file.modelId}/resolve/{file.revision}/{file.filename}"

namespace HFWeightsSource

variable (source : HFWeightsSource F)

def file (filename : String) : HubFile := { modelId := source.modelId, revision := source.revision, filename }

/-- `_cache_path`. -/
def cachePath (filename : String) : String := (source.file filename).path source.cacheRoot

def shardUrl (filename : String) : String := (source.file filename).url

def indexUrl : String := source.shardUrl "model.safetensors.index.json"

def configUrl : String := source.shardUrl "config.json"

def tokenizerUrl : String := source.shardUrl "tokenizer.json"

end HFWeightsSource

/-! ### A call -/

/-- What a call does with the cache directory. -/
inductive Entry
  /-- `_cache_has`, with its answer. -/
  | asked (file : HubFile) (present : Bool)
  /-- `_download` came to its end. -/
  | downloaded (path : String)
  /-- `_download` raised after it had opened the file. -/
  | broke (path : String)
  /-- The file found for this one was read, or its path returned. -/
  | read (file : HubFile) (found : CachedFile)
  deriving DecidableEq

/-- The source of a call, the cache directory, and what the call has done. -/
structure Session (F : Type) where
  source : HFWeightsSource F
  files : List (String × CachedFile)
  log : List Entry

/-- A method call, which may raise. -/
abbrev Call (F α : Type) := ExceptT String (StateM (Session F)) α

namespace Session

variable (s : Session F)

def note (entry : Entry) : Session F := { s with log := s.log ++ [entry] }

/-- A file is written as far as the download comes. -/
def write (dest : String) (found : CachedFile) (entry : Entry) : Session F :=
  { s with files := Dicts.set dest found s.files, log := s.log ++ [entry] }

/-- All of a file is written. -/
def finish (dest : String) (found : CachedFile) : Session F :=
  let done := s.write dest found (.downloaded dest)
  { done with source := { done.source with cacheSize := done.source.cacheSize + found.content.length } }

def setIndex (index : Dict F) : Session F := { s with source := { s.source with index := some index } }

def setConfig (config : Value F) : Session F := { s with source := { s.source with config } }

def keepOpen (filename : String) (found : CachedFile) : Session F :=
  { s with source := { s.source with cache := Dicts.set filename found s.source.cache } }

end Session

section

variable (hub : Hub F Tensor) (network : String → Download)

/-- The bytes of the first chunks of a file. -/
def firstChunks (chunks : Nat) (content : List UInt8) : List UInt8 := content.take (chunks * (1024 * 1024))

/-- What an `Except` means within a call. -/
def orRaise {α : Type} : Except String α → Call F α
  | .ok a => pure a
  | .error text => throw text

/-- `_cache_has`. -/
def cacheHas (filename : String) : Call F Bool := do
  let s ← get
  let present := (s.files.lookup (s.source.cachePath filename)).isSome
  set (s.note (.asked (s.source.file filename) present))
  return present

/-- `_download`. -/
def download (url dest : String) : Call F Unit :=
  match network url with
  | .refused text => throw text
  | .broken chunks text => do
    modify fun s => s.write dest ⟨url, firstChunks chunks (hub.remote url)⟩ (.broke dest)
    throw text
  | .complete => modify fun s => s.finish dest ⟨url, hub.remote url⟩

/-- `open` of a cached file, and what it holds. -/
def readFile (filename : String) : Call F CachedFile := do
  let s ← get
  match s.files.lookup (s.source.cachePath filename) with
  | some found => do
    set (s.note (.read (s.source.file filename) found))
    return found
  | none => throw s!"[Errno 2] No such file or directory: '{s.source.cachePath filename}'"

/-- A cached file, which is downloaded first when it is not there. -/
def fetch (url : HFWeightsSource F → String) (filename : String) : Call F Unit := do
  let present ← cacheHas filename
  if !present then
    let s ← get
    download hub network (url s.source) (s.source.cachePath filename)

/-- `_safe_open`. -/
def safeOpen (filename : String) : Call F CachedFile := do
  let s ← get
  match s.source.cache.lookup filename with
  | some found => do
    set (s.note (.read (s.source.file filename) found))
    return found
  | none => do
    fetch hub network (fun source => source.shardUrl filename) filename
    let found ← readFile filename
    let _ ← orRaise (hub.safeOpen found.content)
    modify fun s => s.keepOpen filename found
    return found

/-- The index of a repository with a single file. -/
def singleFileIndex : Call F Unit := do
  modify fun s => s.setIndex []
  let found ← safeOpen hub network "model.safetensors"
  let keys ← orRaise (hub.safeOpen found.content)
  modify fun s => s.setIndex (keys.map fun key => (key, .str "model.safetensors"))

/-- `dict(data.get("weight_map", {}))`. -/
def weightMap : Value F → Except String (Dict F)
  | .dict data =>
    match data.lookup "weight_map" with
    | none => .ok []
    | some (.dict items) => .ok items
    | some v => .error s!"'{v.typeName}' object is not iterable"
  | v => .error s!"'{v.typeName}' object has no attribute 'get'"

/-- `_ensure_index`. -/
def ensureIndex : Call F Unit := do
  let s ← get
  if s.source.index.isNone then
    let indexed ← tryCatch (do
        fetch hub network HFWeightsSource.indexUrl "model.safetensors.index.json"
        return true)
      fun _ => do
        singleFileIndex hub network
        return false
    if indexed then
      let found ← readFile "model.safetensors.index.json"
      let data ← orRaise (hub.loadJson found.content)
      let items ← orRaise (weightMap data)
      modify fun s => s.setIndex items

/-- `list_keys`. -/
def listKeys : Call F (List String) := do
  ensureIndex hub network
  let s ← get
  match s.source.index with
  | some index => return index.map Prod.fst
  | none => throw "'NoneType' object has no attribute 'keys'"

/-- The file that an index names. -/
def indexedFile (index : Dict F) (key : String) : Except String String :=
  match index.lookup key with
  | none | some .null => .error s!"key not found: {key}"
  | some (.str filename) => .ok filename
  | some (.list _) => .error "unhashable type: 'list'"
  | some (.dict _) => .error "unhashable type: 'dict'"
  | some v => .error s!"expected string or bytes-like object, got '{v.typeName}'"

/-- `get_tensor`. -/
def getTensor (key : String) : Call F Tensor := do
  ensureIndex hub network
  let s ← get
  match s.source.index with
  | some index => do
    let filename ← orRaise (indexedFile index key)
    let found ← safeOpen hub network filename
    orRaise (hub.getTensor found.content key)
  | none => throw "'NoneType' object has no attribute 'get'"

/-- `dict(config)`. -/
def asDict : Value F → Except String (Dict F)
  | .dict items => .ok items
  | v => .error s!"'{v.typeName}' object is not iterable"

/-- `get_config`. -/
def getConfig : Call F (Dict F) := do
  let s ← get
  if s.source.config.isNone then
    fetch hub network HFWeightsSource.configUrl "config.json"
    let found ← readFile "config.json"
    let config ← orRaise (hub.loadJson found.content)
    modify fun s => s.setConfig config
  let s ← get
  orRaise (asDict s.source.config)

/-- The path of a cached file is returned. -/
def returnPath (filename : String) : Call F (Option String) := do
  let s ← get
  match s.files.lookup (s.source.cachePath filename) with
  | some found => set (s.note (.read (s.source.file filename) found))
  | none => pure ()
  return some (s.source.cachePath filename)

/-- `get_tokenizer_path`. -/
def getTokenizerPath : Call F (Option String) := do
  let fetched ← tryCatch (do
      fetch hub network HFWeightsSource.tokenizerUrl "tokenizer.json"
      return true)
    fun _ => return false
  if fetched then returnPath "tokenizer.json" else return none

end

/-! ### Sources that share a cache directory -/

inductive Method
  | listKeys
  | getTensor (key : String)
  | getConfig
  | getTokenizerPath
  deriving DecidableEq

inductive Returned (F Tensor : Type)
  | created
  | keys (keys : List String)
  | tensor (tensor : Tensor)
  | config (config : Dict F)
  | path (path : Option String)

def Method.call (hub : Hub F Tensor) (network : String → Download) : Method → Call F (Returned F Tensor)
  | .listKeys => return .keys (← HubSource.listKeys hub network)
  | .getTensor key => return .tensor (← HubSource.getTensor hub network key)
  | .getConfig => return .config (← HubSource.getConfig hub network)
  | .getTokenizerPath => return .path (← HubSource.getTokenizerPath hub network)

structure State (F : Type) where
  sources : List (HFWeightsSource F) := []
  files : List (String × CachedFile) := []

inductive Label
  /-- A new source for a URI, as `_run_shard` makes it. -/
  | create (uri : String)
  /-- A method call, and how its downloads go. -/
  | call (index : Nat) (method : Method) (network : String → Download)

/-- What a call has done, and how it ended. -/
structure Output (F Tensor : Type) where
  log : List Entry
  result : Except String (Returned F Tensor)

/-- One call on one of the sources. -/
def step [PyRuntime F] (hub : Hub F Tensor) (root : String) : Runs.Step (State F) Label (Output F Tensor)
  | s, .create uri =>
    match HfUri.parseHfUri F uri with
    | .ok (modelId, revision) =>
      some ({ s with sources := s.sources ++ [{ modelId, revision, cacheRoot := root }] }, ⟨[], .ok .created⟩)
    | .error text => some (s, ⟨[], .error text⟩)
  | s, .call index method network => do
    let source ← s.sources[index]?
    let (result, after) := (method.call hub network).run.run { source, files := s.files, log := [] }
    return ({ sources := s.sources.set index after.source, files := after.files }, ⟨after.log, result⟩)

/-- What the calls have done, in their order. -/
def entries (outputs : List (Output F Tensor)) : List Entry := outputs.flatMap Output.log

end ComputeCloudNode.HubSource
