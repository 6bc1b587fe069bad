import ComputeCloudNode.Llm.HubSource
import Mathlib

/-! What the calls on a source keep. An invariant that the fetching and reading of a file
allow is kept by every method, however it ends; one that holds of the shared directory
between two calls then holds in every run. -/
namespace ComputeCloudNode.HubSource
open Std.Do

set_option mvcgen.warning false

variable {F Tensor : Type}

/-- What a session must allow to keep `I`. A file that was fetched is `Ready` to be read,
and one that was read may be kept open when it is `Found`. -/
structure SessionInvariant (hub : Hub F Tensor) (network : String → Download) (I : Session F → Prop)
    (Ready : String → Session F → Prop) (Found : String → CachedFile → Session F → Prop) : Prop where
  fetch : ∀ filename,
    ⦃fun s => ⌜I s⌝⦄
    (fetch hub network (fun source => source.shardUrl filename) filename : Call F Unit)
    ⦃post⟨fun _ s => ⌜Ready filename s⌝, fun _ s => ⌜I s⌝⟩⦄
  readFile : ∀ filename,
    ⦃fun s => ⌜Ready filename s⌝⦄
    (readFile filename : Call F CachedFile)
    ⦃post⟨fun found s => ⌜I s ∧ Found filename found s⌝, fun _ s => ⌜I s⌝⟩⦄
  returnPath : ∀ filename,
    ⦃fun s => ⌜Ready filename s⌝⦄
    (returnPath filename : Call F (Option String))
    ⦃post⟨fun _ s => ⌜I s⌝, fun _ s => ⌜I s⌝⟩⦄
  reopen : ∀ {s filename found}, I s → s.source.cache.lookup filename = some found →
    I (s.note (.read (s.source.file filename) found))
  keepOpen : ∀ {s filename found}, I s → Found filename found s → I (s.keepOpen filename found)
  setIndex : ∀ {s}, I s → ∀ index, I (s.setIndex index)
  setConfig : ∀ {s}, I s → ∀ config, I (s.setConfig config)

section

variable {root : String} {hub : Hub F Tensor} {network : String → Download} {I : Session F → Prop}
  {Ready : String → Session F → Prop} {Found : String → CachedFile → Session F → Prop} {s : Session F}

/-! ### Methods -/

theorem fetch_keeps (invariant : SessionInvariant hub network I Ready Found) (url : HFWeightsSource F → String)
    (filename : String) (named : url = fun source => source.shardUrl filename) :
    ⦃fun s => ⌜I s⌝⦄
    (fetch hub network url filename : Call F Unit)
    ⦃post⟨fun _ s => ⌜Ready filename s⌝, fun _ s => ⌜I s⌝⟩⦄ := by
  subst named
  exact invariant.fetch filename

theorem safeOpen_keeps (invariant : SessionInvariant hub network I Ready Found) (filename : String) :
    ⦃fun s => ⌜I s⌝⦄
    (safeOpen hub network filename : Call F CachedFile)
    ⦃post⟨fun _ s => ⌜I s⌝, fun _ s => ⌜I s⌝⟩⦄ := by
  have fetched := fetch_keeps invariant
  have reads := invariant.readFile
  mvcgen [safeOpen, orRaise, fetched, reads]
  next s kept found opened => exact invariant.reopen kept opened
  next found s read keys parsed _ => exact invariant.keepOpen read.1 read.2
  next found s read text refused => exact read.1

theorem singleFileIndex_keeps (invariant : SessionInvariant hub network I Ready Found) :
    ⦃fun s => ⌜I s⌝⦄
    (singleFileIndex hub network : Call F Unit)
    ⦃post⟨fun _ s => ⌜I s⌝, fun _ s => ⌜I s⌝⟩⦄ := by
  have opens := safeOpen_keeps invariant
  mvcgen [singleFileIndex, orRaise, opens]
  next kept _ => exact invariant.setIndex kept []
  next kept keys _ _ => exact invariant.setIndex kept _

theorem ensureIndex_keeps (invariant : SessionInvariant hub network I Ready Found) :
    ⦃fun s => ⌜I s⌝⦄
    (ensureIndex hub network : Call F Unit)
    ⦃post⟨fun _ s => ⌜I s⌝, fun _ s => ⌜I s⌝⟩⦄ := by
  have fetched := fetch_keeps invariant
  have reads := invariant.readFile
  have falls := singleFileIndex_keeps invariant
  mvcgen [ensureIndex, orRaise, fetched, reads, falls]
  next read data _ items _ _ _ => exact invariant.setIndex read.1 items
  next read data _ text _ _ => exact read.1
  next read text _ _ => exact read.1

theorem getConfig_keeps (invariant : SessionInvariant hub network I Ready Found) :
    ⦃fun s => ⌜I s⌝⦄
    (getConfig hub network : Call F (Dict F))
    ⦃post⟨fun _ s => ⌜I s⌝, fun _ s => ⌜I s⌝⟩⦄ := by
  have fetched := fetch_keeps invariant
  have reads := invariant.readFile
  mvcgen [getConfig, orRaise, fetched, reads]
  next read config _ _ _ _ => exact invariant.setConfig read.1 config
  next read config _ _ _ _ => exact invariant.setConfig read.1 config
  next read text _ => exact read.1

theorem call_keeps (invariant : SessionInvariant hub network I Ready Found) (method : Method) :
    ⦃fun s => ⌜I s⌝⦄
    (method.call hub network : Call F (Returned F Tensor))
    ⦃post⟨fun _ s => ⌜I s⌝, fun _ s => ⌜I s⌝⟩⦄ := by
  cases method with
  | listKeys =>
    have indexed := ensureIndex_keeps invariant
    mvcgen [Method.call, listKeys, indexed]
  | getTensor key =>
    have indexed := ensureIndex_keeps invariant
    have opens := safeOpen_keeps invariant
    mvcgen [Method.call, getTensor, orRaise, indexed, opens]
  | getConfig =>
    have configured := getConfig_keeps invariant
    mvcgen [Method.call, configured]
  | getTokenizerPath =>
    have fetched := fetch_keeps invariant
    have returns := invariant.returnPath
    mvcgen [Method.call, getTokenizerPath, fetched, returns]

/-- A call that keeps a property of its session has it at the end, however it ends. -/
theorem after_call {α : Type} {call : Call F α}
    (keeps : ⦃fun s => ⌜I s⌝⦄ call ⦃post⟨fun _ s => ⌜I s⌝, fun _ s => ⌜I s⌝⟩⦄) (held : I s) : I (call.run.run s).2 := by
  have ends := keeps s held
  simp only [WP.wp, PredTrans.apply_pushExcept, PredTrans.apply_pushArg, PredTrans.apply_Pure_pure] at ends
  generalize call.run.run s = ended at ends
  obtain ⟨outcome, after⟩ := ended
  cases outcome with
  | ok a => exact ends
  | error text => exact ends

theorem SessionInvariant.after (invariant : SessionInvariant hub network I Ready Found) (held : I s) (method : Method) :
    I ((method.call hub network).run.run s).2 :=
  after_call (call_keeps invariant method) held

/-! ### Runs -/

theorem entries_snoc (outputs : List (Output F Tensor)) (output : Output F Tensor) :
    entries (outputs ++ [output]) = entries outputs ++ output.log := by
  simp only [entries, List.flatMap_append, List.flatMap_cons, List.flatMap_nil, List.append_nil]

variable [PyRuntime F] {state next : State F} {output : Output F Tensor}

/-- A new source has no file open, and the cache directory is as it was. -/
theorem step_create {uri : String} (stepped : step hub root state (.create uri) = some (next, output)) :
    output.log = [] ∧ next.files = state.files ∧
      ∀ source ∈ next.sources, source ∈ state.sources ∨ source.cacheRoot = root ∧ source.cache = [] := by
  simp only [step] at stepped
  split at stepped
  next modelId revision parsed =>
    cases stepped
    refine ⟨rfl, rfl, fun source member => ?_⟩
    rcases List.mem_append.mp member with old | new
    · exact .inl old
    · rw [List.mem_singleton.mp new]
      exact .inr ⟨rfl, rfl⟩
  next text refused =>
    cases stepped
    exact ⟨rfl, rfl, fun source member => .inl member⟩

/-- A call replaces its source and the files by what they are when it ends. -/
theorem step_call {index : Nat} {method : Method}
    (stepped : step hub root state (.call index method network) = some (next, output)) :
    ∃ source, state.sources[index]? = some source ∧
      let ended := (method.call hub network).run.run { source, files := state.files, log := [] }
      { sources := state.sources.set index ended.2.source, files := ended.2.files } = next ∧
        (⟨ended.2.log, ended.1⟩ : Output F Tensor) = output := by
  simp only [step, bind, Option.bind_eq_some_iff, pure] at stepped
  obtain ⟨source, chosen, same⟩ := stepped
  obtain ⟨states, outputs⟩ := Prod.mk.inj (Option.some.inj same)
  exact ⟨source, chosen, states, outputs⟩

/-- What holds before the first call, and goes on to hold when a source is made and when a
call ends whose network is one of these, holds in every run on such networks. -/
theorem run_calls {Allowed : (String → Download) → Prop} {J : List Entry → State F → Prop} (empty : J [] {})
    (create : ∀ {log state next}, J log state → next.files = state.files →
      (∀ source ∈ next.sources, source ∈ state.sources ∨ source.cacheRoot = root ∧ source.cache = []) → J log next)
    (call : ∀ {log state index source network} (method : Method), Allowed network → J log state →
      state.sources[index]? = some source →
      let after := ((method.call hub network : Call F (Returned F Tensor)).run.run
        { source, files := state.files, log := [] }).2
      J (log ++ after.log) { sources := state.sources.set index after.source, files := after.files })
    {labels : List Label} {outputs : List (Output F Tensor)}
    (allowed : ∀ index method network, .call index method network ∈ labels → Allowed network)
    (ran : Runs.run (step hub root) {} labels = some (state, outputs)) : J (entries outputs) state := by
  refine Runs.run_invariant (I := fun state labels outputs =>
    (∀ index method network, .call index method network ∈ labels → Allowed network) →
      J (entries outputs) state) (fun _ => empty) ?_ ran allowed
  intro before labels outputs label after output kept stepped allowed
  have held := kept fun index method network member => allowed index method network (List.mem_append_left _ member)
  rw [entries_snoc]
  cases label with
  | create uri =>
    obtain ⟨quiet, files, created⟩ := step_create stepped
    rw [quiet, List.append_nil]
    exact create held files created
  | call index method network =>
    obtain ⟨source, chosen, rfl, rfl⟩ := step_call stepped
    exact call method (allowed index method network (List.mem_append_right _ List.mem_cons_self)) held chosen

end

end ComputeCloudNode.HubSource
