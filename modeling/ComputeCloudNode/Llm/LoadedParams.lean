import ComputeCloudNode.Llm.WeightNames

/-! What a shard's parameters hold after the copies: the tensor of the last
checkpoint key that names the parameter, or the initial value if none does. -/
namespace ComputeCloudNode.Weights
open ModelConfig

variable {V Tensor Row Cache Logits : Type} {spec : ShardSpec} {tied : Bool} {expected : Param → List Int}
  {shape : Tensor → List Int} {params params' : Params Tensor} {loaded : List Param}
  {entries : List (String × Tensor)}

/-- The tensors that are copied onto a parameter, in order. -/
def copies (spec : ShardSpec) (tied : Bool) (entries : List (String × Tensor)) (q : Param) : List Tensor :=
  (entries.filter fun entry => target spec tied entry.1 = some q).map Prod.snd

theorem loadStateDict_copies
    (ran : loadStateDict spec tied expected shape params entries = .ok (params', loaded)) (q : Param) :
    params' q = ((copies spec tied entries q).getLast?).getD (params q) ∧
      (q ∈ loaded ↔ copies spec tied entries q ≠ []) := by
  induction entries generalizing params loaded with
  | nil =>
    cases ran
    exact ⟨rfl, by simp [copies]⟩
  | cons entry entries ih =>
    obtain ⟨key, val⟩ := entry
    unfold loadStateDict at ran
    cases here : target spec tied key with
    | none =>
      rw [here] at ran
      have skipped : copies spec tied ((key, val) :: entries) q = copies spec tied entries q := by
        simp [copies, here]
      rw [skipped]
      exact ih ran
    | some param =>
      simp only [here] at ran
      split at ran
      next fits =>
        cases rest : loadStateDict spec tied expected shape (params.copy param val) entries with
        | error text =>
          rw [rest] at ran
          cases ran
        | ok answer =>
          rw [rest] at ran
          cases ran
          obtain ⟨value, copied⟩ := ih rest
          by_cases same : param = q
          · subst same
            have first : copies spec tied ((key, val) :: entries) param = val :: copies spec tied entries param := by
              simp [copies, here]
            have placed : params.copy param val param = val := if_pos rfl
            rw [value, first, placed, List.getLast?_cons]
            exact ⟨rfl, by simp⟩
          · have skipped : copies spec tied ((key, val) :: entries) q = copies spec tied entries q := by
              simp [copies, here, same]
            have kept : params.copy param val q = params q := if_neg (Ne.symm same)
            rw [value, skipped, kept, List.mem_cons, copied]
            exact ⟨rfl, or_iff_right (Ne.symm same)⟩
      next => cases ran

/-- With tensors of the right shapes the copies succeed. -/
theorem loadStateDict_succeeds (fits : ∀ entry ∈ entries, ∀ q, target spec tied entry.1 = some q →
    shape entry.2 = expected q) (params : Params Tensor) :
    ∃ answer, loadStateDict spec tied expected shape params entries = .ok answer := by
  induction entries generalizing params with
  | nil => exact ⟨_, rfl⟩
  | cons entry entries ih =>
    obtain ⟨here, rest⟩ := List.forall_mem_cons.mp fits
    unfold loadStateDict
    cases targeted : target spec tied entry.1 with
    | none => exact ih rest params
    | some q =>
      obtain ⟨answer, ran⟩ := ih rest (params.copy q entry.2)
      simp only [if_pos (here q targeted), ran]
      exact ⟨_, rfl⟩

/-- What a shard loads: the wanted keys with the source's tensors. -/
theorem loadShard_ok {source : WeightsSource Tensor} (ran : loadShard source spec = .ok entries) :
    ∃ keys, source.listKeys = .ok keys ∧ entries.map Prod.fst = keys.filter (wanted spec) ∧
      ∀ entry ∈ entries, source.getTensor entry.1 = .ok entry.2 := by
  simp only [loadShard, Fallible.bind_eq_ok_iff, Fallible.mapM_eq_ok_iff, Fallible.pure_eq_ok_iff,
    keysForShard_eq_filter] at ran
  obtain ⟨keys, listed, fetched⟩ := ran
  refine ⟨keys, listed, ?_⟩
  generalize keys.filter (wanted spec) = kept at fetched ⊢
  induction fetched with
  | nil => exact ⟨rfl, nofun⟩
  | cons here _ ih =>
    obtain ⟨tensor, got, rfl⟩ := here
    obtain ⟨names, tensors⟩ := ih
    exact ⟨congrArg _ names, List.forall_mem_cons.mpr ⟨got, tensors⟩⟩

/-- A parameter of the shard is copied onto iff a key of the checkpoint names it. -/
theorem copies_ne_nil_iff {keys : List String} {q : Param}
    (wantedKeys : entries.map Prod.fst = keys.filter (wanted spec)) (owned : q ∈ ownParams spec tied) :
    copies spec tied entries q ≠ [] ↔ ∃ key ∈ keys, Names spec.startLayer key q := by
  constructor
  · intro some_
    obtain ⟨tensor, copied⟩ := List.exists_mem_of_ne_nil _ some_
    obtain ⟨entry, member, rfl⟩ := List.mem_map.mp copied
    obtain ⟨present, targeted⟩ := List.mem_filter.mp member
    have kept : entry.1 ∈ keys.filter (wanted spec) := wantedKeys ▸ List.mem_map_of_mem present
    obtain ⟨listed, kept⟩ := List.mem_filter.mp kept
    exact ⟨entry.1, listed, (wanted_target_iff owned).mp ⟨kept, of_decide_eq_true targeted⟩⟩
  · rintro ⟨key, listed, named⟩
    obtain ⟨kept, targeted⟩ := (wanted_target_iff owned).mpr named
    have present : key ∈ entries.map Prod.fst := wantedKeys ▸ List.mem_filter.mpr ⟨listed, kept⟩
    obtain ⟨entry, member, rfl⟩ := List.mem_map.mp present
    exact List.ne_nil_of_mem (List.mem_map_of_mem (List.mem_filter.mpr ⟨member, decide_eq_true targeted⟩))

/-- A parameter that was copied onto holds the tensor of an entry. -/
theorem loaded_value (ran : loadStateDict spec tied expected shape params entries = .ok (params', loaded))
    {q : Param} (copied : q ∈ loaded) : ∃ entry ∈ entries, params' q = entry.2 := by
  obtain ⟨value, iff_⟩ := loadStateDict_copies ran q
  have some_ := iff_.mp copied
  rw [List.getLast?_eq_some_getLast some_, Option.getD_some] at value
  obtain ⟨entry, member, same⟩ := List.mem_map.mp (List.getLast_mem some_)
  exact ⟨entry, List.mem_of_mem_filter member, value.trans same.symm⟩

end ComputeCloudNode.Weights
