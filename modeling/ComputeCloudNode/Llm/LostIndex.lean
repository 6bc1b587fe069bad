import ComputeCloudNode.Llm.IndexLoads

/-! One source, called again and again. As long as every call that needs the index finds
something to build it from, one that fails leaves the index as it was, and what `list_keys`
returns are the keys of the repository. Otherwise the empty index stays, and the next
`list_keys` returns no key, which makes `load_shard` return no weights. -/
namespace ComputeCloudNode.HubSource

variable {F Tensor : Type} {hub : Hub F Tensor} {network : String → Download} {s after : Session F} {method : Method}

/-- The keys of a repository: those that its index file maps, or those of its single file. -/
def KeysOf (hub : Hub F Tensor) (source : HFWeightsSource F) (keys : List String) : Prop :=
  (∃ data items, hub.loadJson (hub.remote source.indexUrl) = .ok data ∧ weightMap data = .ok items ∧
    keys = items.map Prod.fst) ∨
  hub.safeOpen (hub.remote (source.shardUrl "model.safetensors")) = .ok keys

theorem SameRepository.keysOf (same : SameRepository s after) {keys : List String} :
    KeysOf hub after.source keys ↔ KeysOf hub s.source keys := by
  rw [KeysOf, KeysOf, HFWeightsSource.indexUrl, same.shardUrl, same.shardUrl]
  rfl

/-- What can be read of a cached index or of a cached single file is what the Hub serves:
neither kind of file can be read when it was cut short. -/
structure Genuine (hub : Hub F Tensor) (s : Session F) : Prop where
  indexFile : ∀ found data, s.files.lookup (s.source.cachePath indexName) = some found →
    hub.loadJson found.content = .ok data → found.content = hub.remote s.source.indexUrl
  singleFile : ∀ found keys, s.files.lookup (s.source.cachePath "model.safetensors") = some found →
    hub.safeOpen found.content = .ok keys → found.content = hub.remote (s.source.shardUrl "model.safetensors")
  opened : ∀ found keys, s.source.cache.lookup "model.safetensors" = some found →
    hub.safeOpen found.content = .ok keys → found.content = hub.remote (s.source.shardUrl "model.safetensors")

/-- An index that was built lists the repository, and one that was not can still be built. -/
structure Sound (hub : Hub F Tensor) (s : Session F) : Prop where
  unbuilt : s.source.index = none → Genuine hub s
  built : ∀ items, s.source.index = some items → KeysOf hub s.source (items.map Prod.fst)

/-! ### Files that are not part of the index -/

theorem Fetching.refl {dest : String} : Fetching dest s s := ⟨.refl s, rfl, fun _ _ => rfl⟩

/-- A file beside those of the index is fetched. -/
theorem Genuine.frame {dest : String} (genuine : Genuine hub s) (frame : Fetching dest s after)
    (apart : s.source.cachePath indexName ≠ dest) (aside : s.source.cachePath "model.safetensors" ≠ dest) :
    Genuine hub after where
  indexFile found data held loaded := by
    rw [frame.same.cachePath, frame.files _ apart] at held
    rw [HFWeightsSource.indexUrl, frame.same.shardUrl]
    exact genuine.indexFile found data held loaded
  singleFile found keys held listed := by
    rw [frame.same.cachePath, frame.files _ aside] at held
    rw [frame.same.shardUrl]
    exact genuine.singleFile found keys held listed
  opened found keys held listed := by
    rw [frame.cache] at held
    rw [frame.same.shardUrl]
    exact genuine.opened found keys held listed

theorem Sound.frame {dest : String} (sound : Sound hub s) (frame : Fetching dest s after)
    (apart : s.source.cachePath indexName ≠ dest) (aside : s.source.cachePath "model.safetensors" ≠ dest) :
    Sound hub after where
  unbuilt none_ := by
    rw [frame.same.index] at none_
    exact (sound.unbuilt none_).frame frame apart aside
  built items indexed := by
    rw [frame.same.index] at indexed
    rw [frame.same.keysOf]
    exact sound.built items indexed

theorem getConfig_frame (hub : Hub F Tensor) (network : String → Download) (s : Session F) :
    Fetching (s.source.cachePath "config.json") s ((getConfig hub network : Call F (Dict F)).run.run s).2 := by
  let finish : Call F (Dict F) := do
    let s ← get
    orRaise (asDict s.source.config)
  have finished : ∀ s : Session F, (finish.run.run s).2 = s := by
    intro s
    have starts : finish.run.run s = (orRaise (asDict s.source.config) : Call F (Dict F)).run.run s := rfl
    rw [starts]
    cases asDict s.source.config <;> rfl
  have starts : (getConfig hub network : Call F (Dict F)).run.run s =
      (if s.source.config.isNone then do
        fetch hub network (fun source => source.shardUrl "config.json") "config.json"
        let found ← readFile "config.json"
        let config ← orRaise (hub.loadJson found.content)
        modify fun s => s.setConfig config
        finish
      else finish : Call F (Dict F)).run.run s := by
    by_cases unread : s.source.config.isNone
    · rw [if_pos unread, getConfig, run_ok (run_get s), if_pos unread]
      rfl
    · rw [if_neg unread, getConfig, run_ok (run_get s), if_neg unread]
  rw [starts]
  by_cases unread : s.source.config.isNone
  · rw [if_pos unread]
    obtain ⟨fetched, frame, ⟨ran, found, held, _⟩ | ⟨⟨text, ran⟩, _⟩⟩ := fetch_cases hub network s "config.json"
    · have readable : fetched.files.lookup (fetched.source.cachePath "config.json") = some found := by
        rwa [frame.same.cachePath]
      rw [run_ok ran, run_ok (run_readFile readable)]
      cases hub.loadJson found.content with
      | error text =>
        rw [run_error (run_orRaise _ _)]
        exact ⟨frame.same.trans ⟨⟨rfl, rfl, rfl⟩, rfl⟩, frame.cache, frame.files⟩
      | ok config =>
        let read := fetched.note (.read (fetched.source.file "config.json") found)
        rw [run_ok (run_orRaise _ _)]
        change Fetching _ s (finish.run.run (read.setConfig config)).2
        rw [finished]
        exact ⟨frame.same.trans ⟨⟨rfl, rfl, rfl⟩, rfl⟩, frame.cache, frame.files⟩
    · rw [run_error ran]
      exact frame
  · rw [if_neg unread, finished]
    exact .refl

theorem getTokenizerPath_frame (hub : Hub F Tensor) (network : String → Download) (s : Session F) :
    Fetching (s.source.cachePath "tokenizer.json") s
      ((getTokenizerPath hub network : Call F (Option String)).run.run s).2 := by
  have returned : ∀ s : Session F,
      SameIndex s ((returnPath "tokenizer.json" : Call F (Option String)).run.run s).2 ∧
        ((returnPath "tokenizer.json" : Call F (Option String)).run.run s).2.source.cache = s.source.cache ∧
        ((returnPath "tokenizer.json" : Call F (Option String)).run.run s).2.files = s.files := by
    intro s
    rw [returnPath, run_ok (run_get s)]
    cases s.files.lookup (s.source.cachePath "tokenizer.json") with
    | some found => exact ⟨⟨⟨rfl, rfl, rfl⟩, rfl⟩, rfl, rfl⟩
    | none => exact ⟨⟨⟨rfl, rfl, rfl⟩, rfl⟩, rfl, rfl⟩
  obtain ⟨fetched, frame, ⟨ran, _⟩ | ⟨⟨text, ran⟩, _⟩⟩ := fetch_cases hub network s "tokenizer.json"
  · have fetches : (fetch hub network HFWeightsSource.tokenizerUrl "tokenizer.json" : Call F Unit).run.run s =
        (.ok (), fetched) := ran
    have starts : (getTokenizerPath hub network : Call F (Option String)).run.run s =
        (returnPath "tokenizer.json" : Call F (Option String)).run.run fetched := by
      rw [getTokenizerPath, run_bind, run_tryCatch, run_ok fetches]
      rfl
    obtain ⟨same, cache, files⟩ := returned fetched
    rw [starts]
    refine ⟨frame.same.trans same, cache.trans frame.cache, fun path other => ?_⟩
    rw [files]
    exact frame.files path other
  · have fails : (fetch hub network HFWeightsSource.tokenizerUrl "tokenizer.json" : Call F Unit).run.run s =
        (.error text, fetched) := ran
    have starts : (getTokenizerPath hub network : Call F (Option String)).run.run s = (.ok none, fetched) := by
      rw [getTokenizerPath, run_bind, run_tryCatch, run_error fails]
      rfl
    rw [starts]
    exact frame

/-! ### Calls that need the index -/

/-- A method that builds the index first. -/
def Method.indexes : Method → Bool
  | .listKeys | .getTensor _ => true
  | .getConfig | .getTokenizerPath => false

theorem findable_genuine (genuine : Genuine hub s) {content : List UInt8} {keys : List String}
    (found : findable hub network s "model.safetensors" = some content) (parsed : hub.safeOpen content = .ok keys) :
    content = hub.remote (s.source.shardUrl "model.safetensors") := by
  rw [findable] at found
  cases opened : s.source.cache.lookup "model.safetensors" with
  | some file =>
    rw [opened] at found
    cases found
    exact genuine.opened file keys opened parsed
  | none =>
    rw [opened] at found
    cases held : s.files.lookup (s.source.cachePath "model.safetensors") with
    | some file =>
      rw [held] at found
      cases found
      exact genuine.singleFile file keys held parsed
    | none =>
      simp only [held] at found
      split at found
      · cases found
        rfl
      · cases found

/-- What is found for the index file is what the Hub serves, if it can be read. -/
theorem Found.genuine (genuine : Genuine hub s) {found : CachedFile} {data : Value F}
    (origin : Found hub network s.source.indexUrl (s.source.cachePath indexName) s found)
    (loaded : hub.loadJson found.content = .ok data) : found.content = hub.remote s.source.indexUrl := by
  cases origin with
  | present held => exact genuine.indexFile found data held loaded
  | downloaded absent done => rfl

theorem Lists.keysOf (genuine : Genuine hub s) {items : Dict F} (lists : Lists hub network s items) :
    KeysOf hub s.source (items.map Prod.fst) := by
  cases lists with
  | indexFile origin loaded mapped =>
    have content := origin.genuine genuine loaded
    rw [content] at loaded
    exact .inl ⟨_, _, loaded, mapped, rfl⟩
  | @singleFile keys listed =>
    obtain ⟨content, found, parsed⟩ := Option.bind_eq_some_iff.mp listed
    cases outcome : hub.safeOpen content with
    | error text =>
      rw [outcome] at parsed
      cases parsed
    | ok opened =>
      rw [outcome] at parsed
      cases parsed
      have names : (keys.map fun key => (key, Value.str (F := F) "model.safetensors")).map Prod.fst = keys := by
        rw [List.map_map]
        exact List.map_id keys
      rw [findable_genuine genuine found outcome] at outcome
      rw [names]
      exact .inr outcome

/-- The index is built, or it can still be. -/
theorem Indexing.sound {outcome : Except String Unit} (indexing : Indexing hub network s outcome after)
    (found : ¬NothingToIndex hub network s) (sound : Sound hub s) : SameRepository s after ∧ Sound hub after := by
  cases indexing with
  | known some_ => exact ⟨⟨rfl, rfl, rfl⟩, sound⟩
  | @listed _ items same new indexed lists =>
    refine ⟨same, fun none_ => ?_, fun built indexed' => ?_⟩
    · rw [indexed] at none_
      cases none_
    · rw [indexed] at indexed'
      cases indexed'
      rw [same.keysOf]
      exact lists.keysOf (sound.unbuilt new)
  | @unreadable _ _ found new frame held origin =>
    have genuine := sound.unbuilt new
    have aside : s.source.cachePath "model.safetensors" ≠ s.source.cachePath indexName := cachePath_ne (by decide)
    refine ⟨frame.same.toSameRepository, fun _ => ⟨?_, ?_, ?_⟩, fun items indexed => ?_⟩
    · intro file data held' loaded
      rw [frame.same.cachePath, held] at held'
      cases held'
      rw [HFWeightsSource.indexUrl, frame.same.shardUrl]
      exact origin.genuine genuine loaded
    · intro file keys held' parsed
      rw [frame.same.cachePath, frame.files _ aside] at held'
      rw [frame.same.shardUrl]
      exact genuine.singleFile file keys held' parsed
    · intro file keys opened parsed
      rw [frame.cache] at opened
      rw [frame.same.shardUrl]
      exact genuine.opened file keys opened parsed
    · rw [frame.same.index, new] at indexed
      cases indexed
  | lost same nothing emptied => exact absurd nothing found

/-- Without anything to index, `_ensure_index` raises and the empty index stays. -/
theorem Indexing.empties {outcome : Except String Unit} (indexing : Indexing hub network s outcome after)
    (nothing : NothingToIndex hub network s) :
    (∃ text, outcome = .error text) ∧ s.source.index = none ∧ after.source.index = some [] := by
  obtain ⟨new, absent, failed, unlisted⟩ := nothing
  cases indexing with
  | known some_ => exact absurd new some_
  | listed same _ indexed lists =>
    cases lists with
    | indexFile origin loaded mapped =>
      cases origin with
      | present held =>
        rw [absent] at held
        cases held
      | downloaded _ done => exact absurd done failed
    | singleFile listed =>
      rw [unlisted] at listed
      cases listed
  | unreadable _ frame held origin =>
    cases origin with
    | present held =>
      rw [absent] at held
      cases held
    | downloaded _ done => exact absurd done failed
  | lost same nothing emptied => exact ⟨⟨_, rfl⟩, new, emptied⟩

theorem Indexing.keeps {outcome : Except String Unit} (indexing : Indexing hub network s outcome after)
    (found : ¬NothingToIndex hub network s) {text : String} (raised : outcome = .error text) :
    after.source.index = s.source.index := by
  cases indexing with
  | known some_ => cases raised
  | listed same new indexed lists => cases raised
  | unreadable new frame held origin => exact frame.same.index
  | lost same nothing emptied => exact absurd nothing found

/-- A method that fails to build the index ends there. -/
theorem call_raises {text : String} (indexes : method.indexes = true)
    (ran : (ensureIndex hub network : Call F Unit).run.run s = (.error text, after)) :
    (method.call hub network : Call F (Returned F Tensor)).run.run s = (.error text, after) := by
  cases method with
  | listKeys =>
    have lists : (listKeys hub network : Call F (List String)).run.run s = (.error text, after) := run_error ran
    rw [Method.call, run_error lists]
  | getTensor key =>
    have gets : (getTensor hub network key : Call F Tensor).run.run s = (.error text, after) := run_error ran
    rw [Method.call, run_error gets]
  | getConfig => cases indexes
  | getTokenizerPath => cases indexes

theorem Sound.sameIndex {items : Dict F} (sound : Sound hub s) (indexed : s.source.index = some items)
    (same : SameIndex s after) : Sound hub after where
  unbuilt none_ := by
    rw [same.index, indexed] at none_
    cases none_
  built items indexed := by
    rw [same.index] at indexed
    rw [same.keysOf]
    exact sound.built items indexed

/-- What a call on a sound source leaves, and which keys it may return. -/
structure Lawful (hub : Hub F Tensor) (s : Session F) (result : Except String (Returned F Tensor)) (after : Session F) :
    Prop where
  same : SameRepository s after
  sound : Sound hub after
  keys : ∀ keys, result = .ok (.keys keys) → KeysOf hub s.source keys

theorem listKeys_lawful (found : ¬NothingToIndex hub network s) (sound : Sound hub s) :
    ∃ result after, (Method.listKeys.call hub network : Call F (Returned F Tensor)).run.run s = (result, after) ∧
      Lawful hub s result after := by
  obtain ⟨outcome, after, ran, indexing⟩ := ensureIndex_cases hub network s
  obtain ⟨same, kept⟩ := indexing.sound found sound
  cases outcome with
  | error text => exact ⟨_, after, call_raises rfl ran, same, kept, fun keys raised => by cases raised⟩
  | ok done =>
    cases indexed : after.source.index with
    | some items =>
      have lists : (listKeys hub network : Call F (List String)).run.run s = (.ok (items.map Prod.fst), after) := by
        rw [listKeys, run_ok ran, run_ok (run_get after), indexed]
        rfl
      refine ⟨_, after, run_ok lists, same, kept, fun keys returned => ?_⟩
      cases returned
      exact same.keysOf.mp (kept.built items indexed)
    | none =>
      have raises : (listKeys hub network : Call F (List String)).run.run s =
          (.error "'NoneType' object has no attribute 'keys'", after) := by
        rw [listKeys, run_ok ran, run_ok (run_get after), indexed]
        rfl
      exact ⟨_, after, run_error raises, same, kept, fun keys raised => by cases raised⟩

theorem getTensor_lawful {key : String} (found : ¬NothingToIndex hub network s) (sound : Sound hub s) :
    ∃ result after, ((Method.getTensor key).call hub network : Call F (Returned F Tensor)).run.run s = (result, after) ∧
      Lawful hub s result after := by
  obtain ⟨outcome, after, ran, indexing⟩ := ensureIndex_cases hub network s
  obtain ⟨same, kept⟩ := indexing.sound found sound
  -- Whatever the rest returns is no list of keys.
  have tensor : ∀ {outcome : Except String Tensor} {final : Session F},
      (getTensor hub network key : Call F Tensor).run.run s = (outcome, final) → SameRepository s final →
      Sound hub final → ∃ result after,
        ((Method.getTensor key).call hub network : Call F (Returned F Tensor)).run.run s = (result, after) ∧
          Lawful hub s result after := by
    intro outcome final gets same kept
    cases outcome with
    | ok tensor => exact ⟨_, final, run_ok gets, same, kept, fun keys returned => by cases returned⟩
    | error text => exact ⟨_, final, run_error gets, same, kept, fun keys raised => by cases raised⟩
  cases outcome with
  | error text => exact tensor (run_error ran) same kept
  | ok done =>
    cases indexed : after.source.index with
    | none =>
      have raises : (getTensor hub network key : Call F Tensor).run.run s =
          (.error "'NoneType' object has no attribute 'get'", after) := by
        rw [getTensor, run_ok ran, run_ok (run_get after), indexed]
        rfl
      exact tensor raises same kept
    | some items =>
      have starts : (getTensor hub network key : Call F Tensor).run.run s = (do
          let filename ← orRaise (indexedFile items key)
          let found ← safeOpen hub network filename
          orRaise (hub.getTensor found.content key) : Call F Tensor).run.run after := by
        rw [getTensor, run_ok ran, run_ok (run_get after), indexed]
      cases named : indexedFile items key with
      | error text =>
        rw [named, run_error (run_orRaise _ _)] at starts
        exact tensor starts same kept
      | ok filename =>
        rw [named, run_ok (run_orRaise _ _)] at starts
        obtain ⟨opened, frame, ⟨file, opens, _⟩ | ⟨⟨text, fails⟩, _⟩⟩ := safeOpen_cases hub network after filename
        · rw [run_ok opens, run_orRaise] at starts
          exact tensor starts (same.trans frame.toSameRepository) (kept.sameIndex indexed frame)
        · rw [run_error fails] at starts
          exact tensor starts (same.trans frame.toSameRepository) (kept.sameIndex indexed frame)

/-- A call that needs no index fetches another file, and returns no keys. -/
theorem fetching_lawful {α : Type} {call : Call F α} {wrap : α → Returned F Tensor} {filename : String}
    (sound : Sound hub s) (frame : Fetching (s.source.cachePath filename) s (call.run.run s).2)
    (apart : safeName indexName ≠ safeName filename) (aside : safeName "model.safetensors" ≠ safeName filename)
    (other : ∀ a keys, wrap a ≠ .keys keys) :
    ∃ result after, (do return wrap (← call) : Call F (Returned F Tensor)).run.run s = (result, after) ∧
      Lawful hub s result after := by
  have kept := sound.frame frame (cachePath_ne apart) (cachePath_ne aside)
  cases ran : call.run.run s with
  | mk outcome after =>
    rw [ran] at frame kept
    cases outcome with
    | ok a =>
      refine ⟨_, after, run_ok ran, frame.same.toSameRepository, kept, fun keys returned => ?_⟩
      exact absurd (Except.ok.inj returned) (other a keys)
    | error text =>
      exact ⟨_, after, run_error ran, frame.same.toSameRepository, kept, fun keys raised => by cases raised⟩

theorem call_lawful (method : Method) (found : method.indexes = true → ¬NothingToIndex hub network s) (sound : Sound hub s) :
    ∃ result after, (method.call hub network : Call F (Returned F Tensor)).run.run s = (result, after) ∧
      Lawful hub s result after := by
  cases method with
  | listKeys => exact listKeys_lawful (found rfl) sound
  | getTensor key => exact getTensor_lawful (found rfl) sound
  | getConfig =>
    exact fetching_lawful sound (getConfig_frame hub network s) (by decide) (by decide) fun _ _ same => by cases same
  | getTokenizerPath =>
    exact fetching_lawful sound (getTokenizerPath_frame hub network s) (by decide) (by decide)
      fun _ _ same => by cases same

/-! ### Runs of one source -/

/-- One call on the source, whose downloads go as the network has it. -/
def callStep (hub : Hub F Tensor) :
    Runs.Step (Session F) (Method × (String → Download)) (Except String (Returned F Tensor)) :=
  fun s (method, network) =>
    let (result, after) := (method.call hub network).run.run s
    some (after, result)

/-- A call that needs the index finds something to build it from. -/
def FindsIndex (hub : Hub F Tensor) (s : Session F) (call : Method × (String → Download)) : Prop :=
  call.1.indexes = true → ¬NothingToIndex hub call.2 s

theorem run_keys {start final : Session F} {calls : List (Method × (String → Download))}
    {results : List (Except String (Returned F Tensor))} (sound : Sound hub start)
    (met : Runs.Meets (callStep hub) (FindsIndex hub) start calls)
    (ran : Runs.run (callStep hub) start calls = some (final, results)) :
    ∀ keys, .ok (.keys keys) ∈ results → KeysOf hub start.source keys := by
  have kept := Runs.run_invariant_of_meets
    (I := fun s _ results => SameRepository start s ∧ Sound hub s ∧
      ∀ keys, .ok (.keys keys) ∈ results → KeysOf hub start.source keys)
    ⟨⟨rfl, rfl, rfl⟩, sound, fun keys member => by cases member⟩ ?_ met ran
  · exact kept.2.2
  · intro before inputs results input next result holds finds stepped
    obtain ⟨same, sound, listed⟩ := holds
    obtain ⟨returned, after, ran, lawful⟩ := call_lawful input.1 finds sound
    have steps : callStep hub before input = some (after, returned) := by
      rw [callStep, ran]
    rw [steps] at stepped
    cases stepped
    refine ⟨same.trans lawful.same, lawful.sound, fun keys member => ?_⟩
    rcases List.mem_append.mp member with old | new
    · exact listed keys old
    · exact same.keysOf.mp (lawful.keys keys (List.mem_singleton.mp new).symm)

/-- A repository with an index file of two bytes, which maps one key. -/
def oneKey : Hub Int Unit where
  remote _ := [0x7b, 0x7d]
  loadJson _ := .ok (.dict [("weight_map", .dict [("lm_head.weight", .str "model.safetensors")])])
  safeOpen _ := .ok ["lm_head.weight"]
  getTensor _ _ := .ok ()

def newSource : Session Int where
  source := { modelId := "org/model", revision := "main", cacheRoot := "cache" }
  files := []
  log := []

/-- A call that raises while the index is built leaves the index alone exactly when there is
something to build it from; as long as that is so for every call, what `list_keys` returns
are the keys of the repository. -/
theorem failed_index_kept_iff (hub : Hub F Tensor) :
    (∀ (s : Session F) (network : String → Download) (method : Method), method.indexes = true →
      ((∀ text, ((ensureIndex hub network : Call F Unit).run.run s).1 = .error text →
          ((method.call hub network : Call F (Returned F Tensor)).run.run s).2.source.index = s.source.index) ↔
        ¬NothingToIndex hub network s)) ∧
    ∀ (start final : Session F) (calls : List (Method × (String → Download)))
      (results : List (Except String (Returned F Tensor))), start.source.index = none → Genuine hub start →
      Runs.Meets (callStep hub) (FindsIndex hub) start calls →
      Runs.run (callStep hub) start calls = some (final, results) →
      ∀ keys, .ok (.keys keys) ∈ results → KeysOf hub start.source keys := by
  constructor
  · intro s network method indexes
    obtain ⟨outcome, after, ran, indexing⟩ := ensureIndex_cases hub network s
    constructor
    · intro kept nothing
      obtain ⟨⟨text, rfl⟩, new, emptied⟩ := indexing.empties nothing
      have same := kept text (congrArg Prod.fst ran)
      rw [call_raises indexes ran, emptied, new] at same
      cases same
    · intro found text raised
      rw [ran] at raised
      cases raised
      rw [call_raises indexes ran]
      exact indexing.keeps found rfl
  · intro start final calls results new genuine met ran
    refine run_keys ⟨fun _ => genuine, fun items indexed => ?_⟩ met ran
    rw [new] at indexed
    cases indexed

theorem failed_index_kept_one_key :
    ((∀ text, ((ensureIndex oneKey fun _ => .refused "Connection refused" : Call Int Unit).run.run newSource).1 =
          .error text →
        ((Method.listKeys.call oneKey fun _ => .refused "Connection refused").run.run newSource).2.source.index =
          newSource.source.index) ↔
      ¬NothingToIndex oneKey (fun _ => .refused "Connection refused") newSource) ∧
    ∃ final, Runs.run (callStep oneKey) newSource [(.listKeys, fun _ => .complete)] =
        some (final, [.ok (.keys ["lm_head.weight"])]) ∧
      KeysOf oneKey newSource.source ["lm_head.weight"] := by
  refine ⟨(failed_index_kept_iff oneKey).1 newSource _ .listKeys rfl, _, rfl, ?_⟩
  refine (failed_index_kept_iff oneKey).2 newSource _ [(.listKeys, fun _ => .complete)] _ rfl ⟨?_, ?_, ?_⟩ ?_ rfl _
    List.mem_cons_self
  · exact fun found data held => by cases held
  · exact fun found keys held => by cases held
  · exact fun found keys opened => by cases opened
  · rw [Runs.meets_cons_iff]
    exact fun next result stepped => ⟨fun _ nothing => nothing.2.2.1 rfl, Runs.meets_nil⟩

/-! ### A source whose first call finds nothing -/

theorem lost_index_lists_nothing :
    ∃ final, Runs.run (callStep oneKey) newSource
        [(.listKeys, fun _ => .refused "Connection refused"), (.listKeys, fun _ => .complete)] =
          some (final, [.error "Connection refused", .ok (.keys [])]) ∧
      newSource.source.index = none ∧ final.source.index = some [] ∧ ¬KeysOf oneKey newSource.source [] := by
  refine ⟨_, rfl, rfl, rfl, ?_⟩
  rintro (⟨data, items, loaded, mapped, names⟩ | listed)
  · cases loaded
    cases mapped
    cases names
  · cases listed

end ComputeCloudNode.HubSource
