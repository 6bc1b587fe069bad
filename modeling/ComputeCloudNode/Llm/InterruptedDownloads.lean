import ComputeCloudNode.Llm.HubReads

/-! Downloads that break. A file is written where it is looked for, so what a broken
download leaves is found by the next call, and passes for the whole file. -/
namespace ComputeCloudNode.HubSource

variable {F Tensor : Type} {root : String} {hub : Hub F Tensor} {network : String → Download}

/-- A download of this path broke, or one came to its end and the file holds what the Hub
serves. -/
def BrokenOrWhole (hub : Hub F Tensor) (log : List Entry) (path : String) (found : CachedFile) : Prop :=
  .broke path ∈ log ∨ .downloaded path ∈ log ∧ found.content = hub.remote found.url

theorem brokenOrWhole_origins : Origins root hub network (BrokenOrWhole hub) where
  snoc origin entry := by
    obtain broke | ⟨downloaded, whole⟩ := origin
    · exact .inl (List.mem_append_left _ broke)
    · exact .inr ⟨List.mem_append_left _ downloaded, whole⟩
  broken _ _ := .inl (List.mem_append_right _ List.mem_cons_self)
  complete _ _ := .inr ⟨List.mem_append_right _ List.mem_cons_self, rfl⟩

/-- A file is found only after a download of its path has come to its end, and a file that
is read or returned is whole. -/
def OnlyWholeFiles (hub : Hub F Tensor) (root : String) (early : List Entry) : Entry → Prop
  | .asked file present => present → .downloaded (file.path root) ∈ early
  | .read _ found => found.content = hub.remote found.url
  | _ => True

variable [PyRuntime F] {labels : List Label} {state : State F} {outputs : List (Output F Tensor)}

/-- A file is found only when a download of its path has come to its end, or broke. -/
theorem found_downloaded (ran : Runs.run (step hub root) {} labels = some (state, outputs)) {early late : List Entry}
    {file : HubFile} (split : entries outputs = early ++ .asked file true :: late) :
    .broke (file.path root) ∈ early ∨ .downloaded (file.path root) ∈ early := by
  have traced := run_traced (fun _ _ _ _ => brokenOrWhole_origins) ran
  obtain ⟨_, broke | ⟨downloaded, _⟩⟩ := traced.directory.log early _ late split rfl
  · exact .inl broke
  · exact .inr downloaded

/-- Only an earlier download of its path that broke makes a file incomplete. -/
theorem read_whole (ran : Runs.run (step hub root) {} labels = some (state, outputs)) {early late : List Entry}
    {file : HubFile} {found : CachedFile} (split : entries outputs = early ++ .read file found :: late) :
    .broke (file.path root) ∈ early ∨ found.content = hub.remote found.url := by
  have traced := run_traced (fun _ _ _ _ => brokenOrWhole_origins) ran
  obtain ⟨broke | ⟨_, whole⟩, _⟩ := traced.directory.log early _ late split
  · exact .inl broke
  · exact .inr whole

/-- In a run in which no download breaks while a file is written, only whole files are found
and read. -/
theorem reads_whole_files (ran : Runs.run (step hub root) {} labels = some (state, outputs))
    (unbroken : ∀ path, .broke path ∉ entries outputs) : Traces.Each (OnlyWholeFiles hub root) (entries outputs) := by
  intro early entry late split
  have intact : ∀ path, .broke path ∉ early := by
    intro path broke
    apply unbroken path
    rw [split]
    exact List.mem_append_left _ broke
  cases entry with
  | asked file present =>
    cases present with
    | false => exact nofun
    | true => exact fun _ => (found_downloaded ran split).resolve_left (intact _)
  | downloaded path => trivial
  | broke path => trivial
  | read file found => exact (read_whole ran split).resolve_left (intact _)

/-! ### A download that breaks -/

def tokenizer : HubFile := ⟨"org/model", "main", "tokenizer.json"⟩

/-- The tokenizer of a model is asked for twice, and its first download breaks. -/
def askedTwice : List Label :=
  [.create "hf://org/model", .call 0 .getTokenizerPath fun _ => .broken 0 "The read operation timed out",
    .call 0 .getTokenizerPath fun _ => .complete]

theorem broken_download_is_returned :
    ∃ state outputs, Runs.run (step emptyObjects "cache") {} askedTwice = some (state, outputs) ∧
      .read tokenizer ⟨tokenizer.url, []⟩ ∈ entries outputs ∧ emptyObjects.remote tokenizer.url ≠ [] := by
  have reads : (Runs.run (step emptyObjects "cache") {} askedTwice).map
      (fun ran => decide (.read tokenizer ⟨tokenizer.url, []⟩ ∈ entries ran.2)) = some true := by
    decide +kernel
  obtain ⟨⟨state, outputs⟩, ran, member⟩ := Option.map_eq_some_iff.mp reads
  exact ⟨state, outputs, ran, of_decide_eq_true member, nofun⟩

/-- The first download fails before the file is opened. -/
def refusedOnce : List Label :=
  [.create "hf://org/model", .call 0 .getTokenizerPath fun _ => .refused "Connection refused",
    .call 0 .getTokenizerPath fun _ => .complete]

theorem reads_whole_files_refused :
    ∃ state outputs, Runs.run (step emptyObjects "cache") {} refusedOnce = some (state, outputs) ∧
      .read tokenizer ⟨tokenizer.url, [0x7b, 0x7d]⟩ ∈ entries outputs ∧
      Traces.Each (OnlyWholeFiles emptyObjects "cache") (entries outputs) := by
  have logged : (Runs.run (step emptyObjects "cache") {} refusedOnce).map (fun ran => entries ran.2) =
      some [.asked tokenizer false, .asked tokenizer false, .downloaded (tokenizer.path "cache"),
        .read tokenizer ⟨tokenizer.url, [0x7b, 0x7d]⟩] := by
    decide +kernel
  obtain ⟨⟨state, outputs⟩, ran, same⟩ := Option.map_eq_some_iff.mp logged
  simp only at same
  refine ⟨state, outputs, ran, ?_, reads_whole_files ran fun path broke => ?_⟩
  · rw [same]
    exact List.mem_of_getElem? (i := 3) rfl
  · rw [same] at broke
    simp only [List.mem_cons, reduceCtorEq, List.not_mem_nil, or_false] at broke

end ComputeCloudNode.HubSource
