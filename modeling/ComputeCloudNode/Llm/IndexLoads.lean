import ComputeCloudNode.Llm.HubSource

/-! What is left of an index that could not be built. `_ensure_index` leaves the index
alone when the file of the index is there but cannot be read; but once it has turned to
the single file of a repository without an index, it sets an empty index first, and that
stays when the single file cannot be opened either. -/
namespace ComputeCloudNode.HubSource

variable {F Tensor α β : Type} {hub : Hub F Tensor} {network : String → Download} {s after : Session F}
  {filename : String}

/-! ### Calls one after the other -/

theorem run_bind (call : Call F α) (next : α → Call F β) (s : Session F) :
    (call >>= next).run.run s =
      match call.run.run s with
      | (.ok a, after) => (next a).run.run after
      | (.error text, after) => (.error text, after) := by
  have split : (call >>= next).run.run s =
      match call.run.run s with
      | (outcome, after) => (ExceptT.bindCont next outcome).run after := rfl
  rw [split]
  rcases call.run.run s with ⟨outcome, after⟩
  cases outcome <;> rfl

theorem run_tryCatch (call : Call F α) (handler : String → Call F α) (s : Session F) :
    (tryCatch call handler).run.run s =
      match call.run.run s with
      | (.ok a, after) => (.ok a, after)
      | (.error text, after) => (handler text).run.run after := by
  simp only [tryCatch, tryCatchThe, MonadExceptOf.tryCatch, ExceptT.tryCatch, ExceptT.run, ExceptT.mk, StateT.run,
    bind, StateT.bind]
  rcases call s with ⟨outcome, after⟩
  cases outcome <;> rfl

theorem run_ok {call : Call F α} {next : α → Call F β} {a : α} (ran : call.run.run s = (.ok a, after)) :
    (call >>= next).run.run s = (next a).run.run after := by
  rw [run_bind, ran]

theorem run_error {call : Call F α} {next : α → Call F β} {text : String} (ran : call.run.run s = (.error text, after)) :
    (call >>= next).run.run s = (.error text, after) := by
  rw [run_bind, ran]

theorem run_get (s : Session F) : (get : Call F (Session F)).run.run s = (.ok s, s) := rfl

theorem run_orRaise (result : Except String α) (s : Session F) :
    (orRaise result : Call F α).run.run s = (result, s) := by
  cases result <;> rfl

/-! ### What a call leaves alone -/

/-- The source is for the same repository. -/
structure SameRepository (s after : Session F) : Prop where
  modelId : after.source.modelId = s.source.modelId
  revision : after.source.revision = s.source.revision
  cacheRoot : after.source.cacheRoot = s.source.cacheRoot

theorem SameRepository.trans {middle : Session F} (first : SameRepository s middle) (second : SameRepository middle after) :
    SameRepository s after where
  modelId := second.modelId.trans first.modelId
  revision := second.revision.trans first.revision
  cacheRoot := second.cacheRoot.trans first.cacheRoot

theorem SameRepository.cachePath (same : SameRepository s after) (filename : String) :
    after.source.cachePath filename = s.source.cachePath filename := by
  rw [HFWeightsSource.cachePath, HFWeightsSource.file, same.modelId, same.revision, same.cacheRoot]
  rfl

theorem SameRepository.shardUrl (same : SameRepository s after) (filename : String) :
    after.source.shardUrl filename = s.source.shardUrl filename := by
  rw [HFWeightsSource.shardUrl, HFWeightsSource.file, same.modelId, same.revision]
  rfl

/-- Its index is also what it was. -/
structure SameIndex (s after : Session F) : Prop extends SameRepository s after where
  index : after.source.index = s.source.index

theorem SameIndex.refl (s : Session F) : SameIndex s s := ⟨⟨rfl, rfl, rfl⟩, rfl⟩

theorem SameIndex.trans {middle : Session F} (first : SameIndex s middle) (second : SameIndex middle after) :
    SameIndex s after :=
  ⟨first.toSameRepository.trans second.toSameRepository, second.index.trans first.index⟩

/-- The name of a cached file is relative to its directory. -/
theorem modelName_relative (modelId rest : String) : Uri.startsWith
    (String.ofList (modelId.toList.map fun c => if c = '/' then '_' else c) ++ "_" ++ rest).toList "/" = false := by
  rw [String.toList_append, String.toList_append, String.toList_ofList]
  cases modelId.toList with
  | nil => rfl
  | cons c cs =>
    have relative : ('/' == if c = '/' then '_' else c) = false := by
      by_cases slash : c = '/'
      · rw [if_pos slash]
        rfl
      · rw [if_neg slash]
        exact beq_false_of_ne (Ne.symm slash)
    change (('/' == if c = '/' then '_' else c) && _) = false
    rw [relative, Bool.false_and]

/-- Two files of one source are kept apart by their sanitised names. -/
theorem cachePath_ne {source : HFWeightsSource F} {name other : String} (differ : safeName name ≠ safeName other) :
    source.cachePath name ≠ source.cachePath other := by
  intro same
  simp only [HFWeightsSource.cachePath, HFWeightsSource.file, HubFile.path, joinPath, modelName_relative,
    Bool.false_eq_true, if_false] at same
  apply differ
  apply String.toList_inj.mp
  split at same
  · simpa [← String.toList_inj] using same
  · simpa [← String.toList_inj] using same

/-- Beyond that only the file at one path may be new. -/
structure Fetching (dest : String) (s after : Session F) : Prop where
  same : SameIndex s after
  cache : after.source.cache = s.source.cache
  files : ∀ path, path ≠ dest → after.files.lookup path = s.files.lookup path

/-- The file is there, or it has just been downloaded in full. -/
inductive Found (hub : Hub F Tensor) (network : String → Download) (url dest : String) (s : Session F) : CachedFile → Prop
  | present {found : CachedFile} (held : s.files.lookup dest = some found) : Found hub network url dest s found
  | downloaded (absent : s.files.lookup dest = none) (done : network url = .complete) :
    Found hub network url dest s ⟨url, hub.remote url⟩

theorem run_cacheHas (s : Session F) (filename : String) :
    (cacheHas filename : Call F Bool).run.run s =
      (.ok (s.files.lookup (s.source.cachePath filename)).isSome,
        s.note (.asked (s.source.file filename) (s.files.lookup (s.source.cachePath filename)).isSome)) := rfl

/-- A file is fetched, or it is not there and its download does not come to its end. -/
theorem fetch_cases (hub : Hub F Tensor) (network : String → Download) (s : Session F) (filename : String) :
    ∃ after, Fetching (s.source.cachePath filename) s after ∧
      ((fetch hub network (fun source => source.shardUrl filename) filename : Call F Unit).run.run s = (.ok (), after) ∧
          (∃ found, after.files.lookup (s.source.cachePath filename) = some found ∧
            Found hub network (s.source.shardUrl filename) (s.source.cachePath filename) s found) ∨
        (∃ text, (fetch hub network (fun source => source.shardUrl filename) filename : Call F Unit).run.run s =
            (.error text, after)) ∧
          s.files.lookup (s.source.cachePath filename) = none ∧ network (s.source.shardUrl filename) ≠ .complete) := by
  cases held : s.files.lookup (s.source.cachePath filename) with
  | some found =>
    refine ⟨s.note (.asked (s.source.file filename) true), ⟨⟨⟨rfl, rfl, rfl⟩, rfl⟩, rfl, fun _ _ => rfl⟩,
      .inl ⟨?_, found, held, .present held⟩⟩
    rw [fetch, run_ok (run_cacheHas s filename), held]
    rfl
  | none =>
    let asked := s.note (.asked (s.source.file filename) false)
    have starts : (fetch hub network (fun source => source.shardUrl filename) filename : Call F Unit).run.run s =
        (download hub network (s.source.shardUrl filename) (s.source.cachePath filename) : Call F Unit).run.run
          asked := by
      rw [fetch, run_ok (run_cacheHas s filename), held, Option.isSome_none, Bool.not_false, if_pos rfl,
        run_ok (run_get asked)]
      rfl
    rw [starts, download]
    cases goes : network (s.source.shardUrl filename) with
    | refused text =>
      refine ⟨asked, ⟨⟨⟨rfl, rfl, rfl⟩, rfl⟩, rfl, fun _ _ => rfl⟩, .inr ⟨⟨text, rfl⟩, rfl, by simp⟩⟩
    | broken chunks text =>
      refine ⟨asked.write (s.source.cachePath filename) ⟨_, firstChunks chunks (hub.remote _)⟩ (.broke _),
        ⟨⟨⟨rfl, rfl, rfl⟩, rfl⟩, rfl, fun path other => ?_⟩, .inr ⟨⟨text, rfl⟩, rfl, by simp⟩⟩
      exact Dicts.lookup_set_ne other _ _
    | complete =>
      refine ⟨asked.finish (s.source.cachePath filename) ⟨_, hub.remote _⟩,
        ⟨⟨⟨rfl, rfl, rfl⟩, rfl⟩, rfl, fun path other => ?_⟩, .inl ⟨rfl, _, ?_, .downloaded held goes⟩⟩
      · exact Dicts.lookup_set_ne other _ _
      · exact Dicts.lookup_set_self _ _ _

theorem run_readFile {found : CachedFile} (held : s.files.lookup (s.source.cachePath filename) = some found) :
    (readFile filename : Call F CachedFile).run.run s = (.ok found, s.note (.read (s.source.file filename) found)) := by
  rw [readFile, run_ok (run_get s), held]
  rfl

/-! ### Opening a file -/

/-- What `_safe_open` finds: an open file, one in the cache directory, or one that it
downloads in full. -/
def findable (hub : Hub F Tensor) (network : String → Download) (s : Session F) (filename : String) : Option (List UInt8) :=
  match s.source.cache.lookup filename with
  | some found => some found.content
  | none =>
    match s.files.lookup (s.source.cachePath filename) with
    | some found => some found.content
    | none =>
      if network (s.source.shardUrl filename) = .complete then some (hub.remote (s.source.shardUrl filename)) else none

/-- `_safe_open` returns what it finds if that can be opened, and raises otherwise. -/
theorem safeOpen_cases (hub : Hub F Tensor) (network : String → Download) (s : Session F) (filename : String) :
    ∃ after, SameIndex s after ∧
      ((∃ found, (safeOpen hub network filename : Call F CachedFile).run.run s = (.ok found, after) ∧
          findable hub network s filename = some found.content) ∨
        (∃ text, (safeOpen hub network filename : Call F CachedFile).run.run s = (.error text, after)) ∧
          ∀ content, findable hub network s filename = some content → ∃ text, hub.safeOpen content = .error text) := by
  have starts : (safeOpen hub network filename : Call F CachedFile).run.run s =
      (match s.source.cache.lookup filename with
      | some found => do
        set (s.note (.read (s.source.file filename) found))
        return found
      | none => do
        fetch hub network (fun source => source.shardUrl filename) filename
        let found ← readFile filename
        let _ ← orRaise (hub.safeOpen found.content)
        modify fun s => s.keepOpen filename found
        return found : Call F CachedFile).run.run s := rfl
  rw [starts, findable]
  cases opened : s.source.cache.lookup filename with
  | some found =>
    exact ⟨s.note (.read (s.source.file filename) found), ⟨⟨rfl, rfl, rfl⟩, rfl⟩, .inl ⟨found, rfl, rfl⟩⟩
  | none =>
    obtain ⟨fetched, frame, ⟨ran, found, held, origin⟩ | ⟨⟨text, ran⟩, absent, failed⟩⟩ :=
      fetch_cases hub network s filename
    · have readable : fetched.files.lookup (fetched.source.cachePath filename) = some found := by
        rwa [frame.same.cachePath]
      have content : findable hub network s filename = some found.content := by
        rw [findable, opened]
        cases origin with
        | present held => rw [held]
        | downloaded absent done => rw [absent, if_pos done]
      rw [findable, opened] at content
      have noted : SameIndex s (fetched.note (.read (fetched.source.file filename) found)) :=
        frame.same.trans ⟨⟨rfl, rfl, rfl⟩, rfl⟩
      dsimp only at content ⊢
      rw [run_ok ran, run_ok (run_readFile readable), content]
      cases parsed : hub.safeOpen found.content with
      | ok keys =>
        exact ⟨(fetched.note (.read (fetched.source.file filename) found)).keepOpen filename found,
          noted.trans ⟨⟨rfl, rfl, rfl⟩, rfl⟩, .inl ⟨found, run_ok (run_orRaise _ _), rfl⟩⟩
      | error text =>
        refine ⟨_, noted, .inr ⟨⟨text, run_error (run_orRaise _ _)⟩, fun content same => ?_⟩⟩
        cases same
        exact ⟨text, parsed⟩
    · refine ⟨fetched, frame.same, .inr ⟨⟨text, run_error ran⟩, fun content same => ?_⟩⟩
      rw [absent, if_neg failed] at same
      cases same

/-- The keys of the single file, if it is found and can be opened. -/
def singleFileKeys (hub : Hub F Tensor) (network : String → Download) (s : Session F) : Option (List String) :=
  (findable hub network s "model.safetensors").bind fun content => (hub.safeOpen content).toOption

theorem singleFileIndex_cases (hub : Hub F Tensor) (network : String → Download) (s : Session F) :
    ∃ after, SameRepository s after ∧
      ((singleFileIndex hub network : Call F Unit).run.run s = (.ok (), after) ∧
          (∃ keys, singleFileKeys hub network s = some keys ∧
            after.source.index = some (keys.map fun key => (key, .str "model.safetensors"))) ∨
        (∃ text, (singleFileIndex hub network : Call F Unit).run.run s = (.error text, after)) ∧
          singleFileKeys hub network s = none ∧ after.source.index = some []) := by
  have starts : (singleFileIndex hub network : Call F Unit).run.run s =
      (do
        let found ← safeOpen hub network "model.safetensors"
        let keys ← orRaise (hub.safeOpen found.content)
        modify fun s => s.setIndex (keys.map fun key => (key, .str "model.safetensors")) : Call F Unit).run.run
          (s.setIndex []) := rfl
  have same : findable hub network (s.setIndex []) "model.safetensors" = findable hub network s "model.safetensors" := rfl
  rw [starts, singleFileKeys]
  obtain ⟨after, frame, ⟨found, ran, content⟩ | ⟨⟨text, ran⟩, refused⟩⟩ :=
    safeOpen_cases hub network (s.setIndex []) "model.safetensors"
  · rw [same] at content
    rw [run_ok ran, content]
    cases parsed : hub.safeOpen found.content with
    | ok keys =>
      exact ⟨after.setIndex _, ⟨frame.modelId, frame.revision, frame.cacheRoot⟩,
        .inl ⟨run_ok (run_orRaise _ _), keys, congrArg Except.toOption parsed, rfl⟩⟩
    | error text =>
      exact ⟨after, ⟨frame.modelId, frame.revision, frame.cacheRoot⟩,
        .inr ⟨⟨text, run_error (run_orRaise _ _)⟩, congrArg Except.toOption parsed, frame.index⟩⟩
  · rw [same] at refused
    refine ⟨after, ⟨frame.modelId, frame.revision, frame.cacheRoot⟩, .inr ⟨⟨text, run_error ran⟩, ?_, frame.index⟩⟩
    cases content : findable hub network s "model.safetensors" with
    | none => rfl
    | some found =>
      obtain ⟨text, parsed⟩ := refused found content
      exact congrArg Except.toOption parsed

/-! ### Building the index -/

def indexName : String := "model.safetensors.index.json"

/-- There is no index, its file can be neither found nor downloaded, and the single file
cannot be opened in its place. -/
def NothingToIndex (hub : Hub F Tensor) (network : String → Download) (s : Session F) : Prop :=
  s.source.index = none ∧ s.files.lookup (s.source.cachePath indexName) = none ∧
    network s.source.indexUrl ≠ .complete ∧ singleFileKeys hub network s = none

/-- The items of an index file that is found, or those for the keys of the single file. -/
inductive Lists (hub : Hub F Tensor) (network : String → Download) (s : Session F) : Dict F → Prop
  | indexFile {found : CachedFile} {data : Value F} {items : Dict F}
    (origin : Found hub network s.source.indexUrl (s.source.cachePath indexName) s found)
    (loaded : hub.loadJson found.content = .ok data) (mapped : weightMap data = .ok items) : Lists hub network s items
  | singleFile {keys : List String} (listed : singleFileKeys hub network s = some keys) :
    Lists hub network s (keys.map fun key => (key, .str "model.safetensors"))

/-- How `_ensure_index` ends. -/
inductive Indexing (hub : Hub F Tensor) (network : String → Download) (s : Session F) : Except String Unit → Session F → Prop
  | known (some_ : s.source.index ≠ none) : Indexing hub network s (.ok ()) s
  | listed {after : Session F} {items : Dict F} (same : SameRepository s after) (new : s.source.index = none)
    (indexed : after.source.index = some items) (lists : Lists hub network s items) : Indexing hub network s (.ok ()) after
  | unreadable {after : Session F} {text : String} {found : CachedFile} (new : s.source.index = none)
    (frame : Fetching (s.source.cachePath indexName) s after)
    (held : after.files.lookup (s.source.cachePath indexName) = some found)
    (origin : Found hub network s.source.indexUrl (s.source.cachePath indexName) s found) :
    Indexing hub network s (.error text) after
  | lost {after : Session F} {text : String} (same : SameRepository s after) (nothing : NothingToIndex hub network s)
    (emptied : after.source.index = some []) : Indexing hub network s (.error text) after

theorem Fetching.singleFileKeys {fetched : Session F} (frame : Fetching (s.source.cachePath indexName) s fetched) :
    singleFileKeys hub network fetched = HubSource.singleFileKeys hub network s := by
  have apart : s.source.cachePath "model.safetensors" ≠ s.source.cachePath indexName := cachePath_ne (by decide)
  have same : findable hub network fetched "model.safetensors" = findable hub network s "model.safetensors" := by
    rw [findable, findable, frame.cache, frame.same.cachePath, frame.files _ apart, frame.same.shardUrl]
  rw [HubSource.singleFileKeys, same, HubSource.singleFileKeys]

/-- What `_ensure_index` does with the file of the index. -/
theorem readIndex_cases {fetched : Session F} {found : CachedFile} (new : s.source.index = none)
    (frame : Fetching (s.source.cachePath indexName) s fetched)
    (held : fetched.files.lookup (s.source.cachePath indexName) = some found)
    (origin : Found hub network s.source.indexUrl (s.source.cachePath indexName) s found) :
    ∃ outcome after, (do
        let found ← readFile indexName
        let data ← orRaise (hub.loadJson found.content)
        let items ← orRaise (weightMap data)
        modify fun s => s.setIndex items : Call F Unit).run.run fetched = (outcome, after) ∧
      Indexing hub network s outcome after := by
  have readable : fetched.files.lookup (fetched.source.cachePath indexName) = some found := by
    rwa [frame.same.cachePath]
  have noted : Fetching (s.source.cachePath indexName) s (fetched.note (.read (fetched.source.file indexName) found)) :=
    ⟨frame.same.trans ⟨⟨rfl, rfl, rfl⟩, rfl⟩, frame.cache, frame.files⟩
  rw [run_ok (run_readFile readable)]
  cases loaded : hub.loadJson found.content with
  | error text => exact ⟨_, _, run_error (run_orRaise _ _), .unreadable new noted held origin⟩
  | ok data =>
    rw [run_ok (run_orRaise _ _)]
    cases mapped : weightMap data with
    | error text => exact ⟨_, _, run_error (run_orRaise _ _), .unreadable new noted held origin⟩
    | ok items =>
      refine ⟨_, _, run_ok (run_orRaise _ _), .listed ?_ new rfl (.indexFile origin loaded mapped)⟩
      exact noted.same.toSameRepository.trans ⟨rfl, rfl, rfl⟩

/-- The handler of `_ensure_index`, after a download that did not come to its end. -/
theorem fallback_cases {fetched : Session F} (new : s.source.index = none)
    (frame : Fetching (s.source.cachePath indexName) s fetched)
    (absent : s.files.lookup (s.source.cachePath indexName) = none) (failed : network s.source.indexUrl ≠ .complete) :
    ∃ outcome after, (singleFileIndex hub network : Call F Unit).run.run fetched = (outcome, after) ∧
      Indexing hub network s outcome after := by
  obtain ⟨after, same, ⟨ran, keys, listed, indexed⟩ | ⟨⟨text, ran⟩, nothing, emptied⟩⟩ :=
    singleFileIndex_cases hub network fetched
  · rw [frame.singleFileKeys] at listed
    exact ⟨_, after, ran, .listed (frame.same.toSameRepository.trans same) new indexed (.singleFile listed)⟩
  · rw [frame.singleFileKeys] at nothing
    exact ⟨_, after, ran, .lost (frame.same.toSameRepository.trans same) ⟨new, absent, failed, nothing⟩ emptied⟩

theorem ensureIndex_cases (hub : Hub F Tensor) (network : String → Download) (s : Session F) :
    ∃ outcome after, (ensureIndex hub network : Call F Unit).run.run s = (outcome, after) ∧
      Indexing hub network s outcome after := by
  let attempt : Call F Bool := tryCatch (do
      fetch hub network HFWeightsSource.indexUrl indexName
      return true)
    fun _ => do
      singleFileIndex hub network
      return false
  let rest (indexed : Bool) : Call F Unit := do
    if indexed then
      let found ← readFile indexName
      let data ← orRaise (hub.loadJson found.content)
      let items ← orRaise (weightMap data)
      modify fun s => s.setIndex items
  have starts : (ensureIndex hub network : Call F Unit).run.run s =
      (if s.source.index.isNone then attempt >>= rest else pure () : Call F Unit).run.run s := rfl
  rw [starts]
  cases index : s.source.index with
  | some items => exact ⟨_, _, rfl, .known (by simp [index])⟩
  | none =>
    change ∃ outcome after, (attempt >>= rest).run.run s = (outcome, after) ∧ Indexing hub network s outcome after
    obtain ⟨fetched, frame, ⟨ran, found, held, origin⟩ | ⟨⟨text, ran⟩, absent, failed⟩⟩ :=
      fetch_cases hub network s indexName
    · have fetches : (fetch hub network HFWeightsSource.indexUrl indexName : Call F Unit).run.run s = (.ok (), fetched) :=
        ran
      have succeeds : attempt.run.run s = (.ok true, fetched) := by
        rw [run_tryCatch, run_ok fetches]
        rfl
      rw [run_ok succeeds]
      exact readIndex_cases index frame held origin
    · have fails : (fetch hub network HFWeightsSource.indexUrl indexName : Call F Unit).run.run s =
          (.error text, fetched) := ran
      have falls : attempt.run.run s = (do
          singleFileIndex hub network
          return false : Call F Bool).run.run fetched := by
        rw [run_tryCatch, run_error fails]
      rw [run_bind, falls]
      obtain ⟨outcome, after, ran, indexing⟩ := fallback_cases index frame absent failed
      cases outcome with
      | ok done =>
        rw [run_ok ran]
        exact ⟨_, _, rfl, indexing⟩
      | error text =>
        rw [run_error ran]
        exact ⟨_, _, rfl, indexing⟩

end ComputeCloudNode.HubSource
