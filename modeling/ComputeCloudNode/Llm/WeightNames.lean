import ComputeCloudNode.Llm.Weights

/-! What the key filter and the two renamings of `load_state_dict` do together.
A checkpoint key reaches a parameter of a shard exactly when it is a name of that
parameter: the layer number may be written with any decimal digits, one final
newline is ignored, and `lm_head` has two names. -/
namespace ComputeCloudNode.Weights
open ModelConfig

variable {key : String} {spec : ShardSpec} {tied : Bool} {n : Nat} {rest line : List Char} {q : Param}

/-- `key` is a checkpoint name of a parameter of the shard whose first layer is
`start`. -/
def Names (start : Int) (key : String) : Param → Prop
  | .embedTokens => key = "model.embed_tokens.weight"
  | .norm => key = "model.norm.weight"
  | .lmHead => key = "lm_head.weight" ∨ key = "model.lm_head.weight"
  | .layer index param => ∃ digits newline : List Char,
      digits ≠ [] ∧ (∀ c ∈ digits, Decimal.isDigit c) ∧ (Decimal.value digits : Int) = start + index ∧
        (newline = [] ∨ newline = ['\n']) ∧
        key.toList = "model.layers.".toList ++ (digits ++ '.' :: (param.suffix.toList ++ newline))

theorem layerKey_eq_some_iff : layerKey key = some (n, rest) ↔
    ∃ digits, digits ≠ [] ∧ (∀ c ∈ digits, Decimal.isDigit c) ∧ Decimal.value digits = n ∧
      key.toList = "model.layers.".toList ++ (digits ++ '.' :: rest) := by
  simp only [layerKey, Option.bind_eq_some_iff, List.isPrefixOf?_eq_some_iff_append_eq,
    Decimal.numberDot_eq_some_iff]
  constructor
  · rintro ⟨after, split, digits, nonempty, digital, valued, rfl⟩
    exact ⟨digits, nonempty, digital, valued, split.symm⟩
  · rintro ⟨digits, nonempty, digital, valued, split⟩
    exact ⟨_, split.symm, digits, nonempty, digital, valued, rfl⟩

theorem restOfLine_eq_some_iff {cs : List Char} : restOfLine cs = some line ↔
    line ≠ [] ∧ '\n' ∉ line ∧ (cs = line ∨ cs = line ++ ['\n']) := by
  constructor
  · intro read
    have split := List.takeWhile_append_dropWhile (p := (· != '\n')) (l := cs)
    unfold restOfLine at read
    split at read
    next c body taken dropped =>
      cases read
      rw [taken, dropped, List.append_nil] at split
      refine ⟨by simp, fun member => ?_, .inl split.symm⟩
      have clean := List.mem_takeWhile_imp (taken ▸ member)
      cases clean
    next c body taken dropped =>
      cases read
      rw [taken, dropped] at split
      refine ⟨by simp, fun member => ?_, .inr split.symm⟩
      have clean := List.mem_takeWhile_imp (taken ▸ member)
      cases clean
    next => cases read
  · rintro ⟨nonempty, clean, ends⟩
    have plain : ∀ c ∈ line, (c != '\n') = true := by
      intro c member
      rw [bne_iff_ne]
      rintro rfl
      exact clean member
    obtain ⟨c, body, rfl⟩ := List.exists_cons_of_ne_nil nonempty
    rcases ends with rfl | rfl
    · rw [restOfLine, List.takeWhile_eq_self_iff.mpr plain, List.dropWhile_eq_nil_iff.mpr plain]
    · have taken : ['\n'].takeWhile (· != '\n') = [] := rfl
      have dropped : ['\n'].dropWhile (· != '\n') = ['\n'] := rfl
      rw [restOfLine, List.takeWhile_append_of_pos plain, List.dropWhile_append_of_pos plain, taken, dropped,
        List.append_nil]
      rfl

theorem suffix_plain (param : LayerParam) : param.suffix.toList ≠ [] ∧ '\n' ∉ param.suffix.toList := by
  cases param <;> decide

theorem suffix_injective {left right : LayerParam} (same : left.suffix.toList = right.suffix.toList) :
    left = right := by
  cases left <;> cases right <;> first | rfl | (exact absurd same (by decide))

/-- A local layer name is read back. -/
theorem layersKey_local (nonempty : line ≠ []) (clean : '\n' ∉ line) (index : Nat) :
    layersKey ("layers." ++ toString index ++ "." ++ String.ofList line).toList = some (index, line) := by
  have dotted : ("layers." ++ toString index ++ "." ++ String.ofList line).toList =
      "layers.".toList ++ ((toString index).toList ++ '.' :: line) := by
    simp only [String.toList_append, String.toList_ofList, List.append_assoc]
    rfl
  have stripped := List.isPrefixOf?_eq_some_iff_append_eq.mpr dotted.symm
  have plain := restOfLine_eq_some_iff.mpr ⟨nonempty, clean, .inl (Eq.refl line)⟩
  simp only [layersKey, stripped, Option.bind_some, Decimal.numberDot_toString, plain, Option.map_some]

theorem layersKey_name_layer (index : Nat) (param : LayerParam) :
    layersKey (Param.layer index param).name.toList = some (index, param.suffix.toList) := by
  have readBack := layersKey_local (suffix_plain param).1 (suffix_plain param).2 index
  rwa [String.ofList_toList] at readBack

theorem layersKey_name_other (other : ∀ index param, q ≠ .layer index param) :
    layersKey q.name.toList = none := by
  cases q with
  | layer index param => exact absurd rfl (other index param)
  | embedTokens | norm | lmHead => rfl

/-- Only layer names are read as layer names. -/
theorem layersKey_name_iff {index : Nat} : layersKey q.name.toList = some (index, line) ↔
    ∃ param : LayerParam, q = .layer index param ∧ line = param.suffix.toList := by
  constructor
  · intro read
    cases q with
    | layer other param =>
      rw [layersKey_name_layer] at read
      cases read
      exact ⟨param, rfl, rfl⟩
    | embedTokens | norm | lmHead =>
      rw [layersKey_name_other (by simp)] at read
      cases read
  · rintro ⟨param, rfl, rfl⟩
    exact layersKey_name_layer index param

theorem name_injective : Function.Injective Param.name := by
  intro left right same
  cases left with
  | layer index param =>
    have read := layersKey_name_layer index param
    rw [same] at read
    obtain ⟨other, rfl, suffix⟩ := layersKey_name_iff.mp read
    rw [suffix_injective suffix]
  | embedTokens | norm | lmHead =>
    cases right with
    | layer index param =>
      have read := layersKey_name_layer index param
      rw [← same, layersKey_name_other (by simp)] at read
      cases read
    | embedTokens | norm | lmHead => first | rfl | exact absurd same (by decide)

/-- The parameter a key is copied onto is the owned one with the renamed key. -/
theorem target_eq_some_iff : target spec tied key = some q ↔
    q ∈ ownParams spec tied ∧ remap spec key = some q.name := by
  simp only [target, Option.bind_eq_some_iff]
  constructor
  · rintro ⟨lk, renamed, found⟩
    have named := List.find?_some found
    rw [decide_eq_true_eq] at named
    exact ⟨List.mem_of_find?_eq_some found, named ▸ renamed⟩
  · rintro ⟨owned, renamed⟩
    refine ⟨q.name, renamed, ?_⟩
    cases found : (ownParams spec tied).find? fun param => param.name = q.name with
    | none =>
      have missed := List.find?_eq_none.mp found q owned
      simp at missed
    | some other =>
      have named := List.find?_some found
      rw [decide_eq_true_eq] at named
      rw [name_injective named]

/-- Whether `keys_for_shard` keeps a key. -/
def wanted (spec : ShardSpec) (key : String) : Bool :=
  match layerKey key with
  | some (index, _) => spec.startLayer ≤ index ∧ index < spec.endLayer
  | none =>
    (spec.isFirst && key = "model.embed_tokens.weight") ||
      (spec.isLast && key ∈ ["model.norm.weight", "lm_head.weight", "model.lm_head.weight"])

theorem keysForShard_eq_filter (allKeys : List String) (spec : ShardSpec) :
    keysForShard allKeys spec = allKeys.filter (wanted spec) := by
  induction allKeys with
  | nil => rfl
  | cons key keys ih =>
    have here : keysForShard (key :: keys) spec =
        (if wanted spec key then [key] else []) ++ keysForShard keys spec := by
      rw [keysForShard, List.flatMap_cons, keysForShard]
      congr 1
      unfold wanted
      cases layerKey key with
      | some found => simp only [decide_eq_true_eq]
      | none =>
        by_cases embeds : key = "model.embed_tokens.weight"
        · subst embeds
          cases spec.isFirst <;> simp
        · simp [embeds]
    rw [here, ih, List.filter_cons]
    split <;> rfl

/-- A layer key without its `model.` prefix, as the second pattern reads it. -/
theorem layersKey_stripModel (read : layerKey key = some (n, rest)) :
    layersKey (stripModel key.toList) = (restOfLine rest).map fun line => (n, line) := by
  obtain ⟨digits, nonempty, digital, valued, split⟩ := layerKey_eq_some_iff.mp read
  have outer : "model.".toList.isPrefixOf? key.toList =
      some ("layers.".toList ++ (digits ++ '.' :: rest)) :=
    List.isPrefixOf?_eq_some_iff_append_eq.mpr split.symm
  have inner : "layers.".toList.isPrefixOf? ("layers.".toList ++ (digits ++ '.' :: rest)) =
      some (digits ++ '.' :: rest) := List.isPrefixOf?_eq_some_iff_append_eq.mpr rfl
  have number : Decimal.numberDot (digits ++ '.' :: rest) = some (n, rest) :=
    Decimal.numberDot_eq_some_iff.mpr ⟨digits, nonempty, digital, valued, rfl⟩
  simp only [layersKey, stripModel, outer, inner, Option.bind_some, number]

/-- No other owned name starts like a layer name. -/
theorem name_of_layers_prefix {after : List Char} (starts : q.name.toList = "layers.".toList ++ after) :
    ∃ index param, q = .layer index param := by
  have stripped := List.isPrefixOf?_eq_some_iff_append_eq.mpr starts.symm
  cases q with
  | layer index param => exact ⟨index, param, rfl⟩
  | embedTokens | norm | lmHead => cases stripped

/-- A layer key in range is copied onto the parameter its rest names. -/
theorem remap_layer (read : layerKey key = some (n, rest)) (low : spec.startLayer ≤ n)
    (high : n < spec.endLayer) : remap spec key = some q.name ↔
      ∃ param : LayerParam, q = .layer (n - spec.startLayer).toNat param ∧
        restOfLine rest = some param.suffix.toList := by
  have layers := layersKey_stripModel read
  cases ends : restOfLine rest with
  | none =>
    rw [ends, Option.map_none] at layers
    simp only [remap, layers, Option.some.injEq, reduceCtorEq, and_false, exists_false, iff_false]
    intro same
    have unnamed : q.name.toList = stripModel key.toList := by rw [← same, String.toList_ofList]
    obtain ⟨digits, _, _, _, split⟩ := layerKey_eq_some_iff.mp read
    have outer : "model.".toList.isPrefixOf? key.toList =
        some ("layers.".toList ++ (digits ++ '.' :: rest)) :=
      List.isPrefixOf?_eq_some_iff_append_eq.mpr split.symm
    have starts : stripModel key.toList = "layers.".toList ++ (digits ++ '.' :: rest) := by
      rw [stripModel, outer]
    obtain ⟨index, param, rfl⟩ := name_of_layers_prefix (unnamed.trans starts)
    rw [← unnamed, layersKey_name_layer] at layers
    cases layers
  | some line =>
    rw [ends, Option.map_some] at layers
    obtain ⟨nonempty, clean, _⟩ := restOfLine_eq_some_iff.mp ends
    have inRange : 0 ≤ (n : Int) - spec.startLayer ∧ (n : Int) - spec.startLayer < spec.endLayer - spec.startLayer := by
      omega
    simp only [remap, layers, if_pos inRange, Option.some.injEq]
    constructor
    · intro same
      have readBack := layersKey_local nonempty clean ((n : Int) - spec.startLayer).toNat
      rw [same] at readBack
      exact layersKey_name_iff.mp readBack
    · rintro ⟨param, rfl, rfl⟩
      rw [String.ofList_toList, Param.name]

theorem names_layer_iff {start : Int} {index : Nat} {param : LayerParam} :
    Names start key (.layer index param) ↔
      ∃ n rest, layerKey key = some (n, rest) ∧ (n : Int) = start + index ∧
        restOfLine rest = some param.suffix.toList := by
  constructor
  · rintro ⟨digits, newline, nonempty, digital, valued, ends, split⟩
    refine ⟨Decimal.value digits, param.suffix.toList ++ newline,
      layerKey_eq_some_iff.mpr ⟨digits, nonempty, digital, rfl, split⟩, valued,
      restOfLine_eq_some_iff.mpr ⟨(suffix_plain param).1, (suffix_plain param).2, ?_⟩⟩
    rcases ends with rfl | rfl
    · exact .inl (List.append_nil _)
    · exact .inr rfl
  · rintro ⟨n, rest, read, valued, line⟩
    obtain ⟨digits, nonempty, digital, rfl, split⟩ := layerKey_eq_some_iff.mp read
    obtain ⟨_, _, ends⟩ := restOfLine_eq_some_iff.mp line
    rcases ends with rfl | rfl
    · exact ⟨digits, [], nonempty, digital, valued, .inl rfl, by rw [List.append_nil]; exact split⟩
    · exact ⟨digits, ['\n'], nonempty, digital, valued, .inr rfl, split⟩

/-- The keys outside the layers that a shard may keep. -/
theorem wanted_other (read : layerKey key = none) : wanted spec key ↔
    (spec.isFirst ∧ key = "model.embed_tokens.weight") ∨
      (spec.isLast ∧ (key = "model.norm.weight" ∨ key = "lm_head.weight" ∨ key = "model.lm_head.weight")) := by
  simp [wanted, read]

/-- They are copied onto the parameter they name. -/
theorem target_other (read : layerKey key = none) (kept : wanted spec key) :
    target spec tied key = some q ↔ q ∈ ownParams spec tied ∧ Names spec.startLayer key q := by
  have renamed : ∃ param : Param, remap spec key = some param.name ∧
      ∀ q, param = q ↔ Names spec.startLayer key q := by
    rcases (wanted_other read).mp kept with ⟨_, rfl⟩ | ⟨_, rfl | rfl | rfl⟩
    · exact ⟨.embedTokens, rfl, fun q => by cases q <;> simp [Names]⟩
    · exact ⟨.norm, rfl, fun q => by cases q <;> simp [Names]⟩
    · exact ⟨.lmHead, rfl, fun q => by cases q <;> simp [Names]⟩
    · exact ⟨.lmHead, rfl, fun q => by cases q <;> simp [Names]⟩
  obtain ⟨param, renamed, named⟩ := renamed
  rw [target_eq_some_iff, renamed, Option.some.injEq, name_injective.eq_iff, named q]

/-- A key that a shard keeps is copied onto the owned parameter it is a name of. -/
theorem target_iff_names (kept : wanted spec key) :
    target spec tied key = some q ↔ q ∈ ownParams spec tied ∧ Names spec.startLayer key q := by
  cases read : layerKey key with
  | none => exact target_other read kept
  | some found =>
    obtain ⟨n, rest⟩ := found
    have range : spec.startLayer ≤ n ∧ n < spec.endLayer := by simpa [wanted, read] using kept
    rw [target_eq_some_iff, remap_layer read range.1 range.2]
    apply and_congr_right
    intro _
    constructor
    · rintro ⟨param, rfl, line⟩
      exact names_layer_iff.mpr ⟨n, rest, read, by omega, line⟩
    · intro named
      cases q with
      | layer index param =>
        obtain ⟨_, _, same, valued, line⟩ := names_layer_iff.mp named
        cases read.symm.trans same
        exact ⟨param, by rw [show ((n : Int) - spec.startLayer).toNat = index by omega], line⟩
      | embedTokens | norm =>
        cases named
        cases read
      | lmHead => rcases named with rfl | rfl <;> cases read

/-- A shard keeps every name of the parameters it owns. -/
theorem wanted_of_names (owned : q ∈ ownParams spec tied) (named : Names spec.startLayer key q) :
    wanted spec key := by
  cases q with
  | layer index param =>
    obtain ⟨n, rest, read, valued, _⟩ := names_layer_iff.mp named
    have bound : index < spec.layerCount := layer_mem.mp owned
    have range : spec.startLayer ≤ n ∧ n < spec.endLayer := by
      unfold ShardSpec.layerCount at bound
      omega
    simpa [wanted, read] using range
  | embedTokens =>
    cases named
    exact (wanted_other rfl).mpr (.inl ⟨embedTokens_mem.mp owned, rfl⟩)
  | norm =>
    cases named
    exact (wanted_other rfl).mpr (.inr ⟨norm_mem.mp owned, .inl rfl⟩)
  | lmHead =>
    have last := (lmHead_mem.mp owned).1
    rcases named with rfl | rfl
    · exact (wanted_other rfl).mpr (.inr ⟨last, .inr (.inl rfl)⟩)
    · exact (wanted_other rfl).mpr (.inr ⟨last, .inr (.inr rfl)⟩)

/-- A key is kept for a parameter exactly when it is one of its names. -/
theorem wanted_target_iff (owned : q ∈ ownParams spec tied) :
    (wanted spec key ∧ target spec tied key = some q) ↔ Names spec.startLayer key q := by
  constructor
  · rintro ⟨kept, targeted⟩
    exact ((target_iff_names kept).mp targeted).2
  · intro named
    have kept := wanted_of_names owned named
    exact ⟨kept, (target_iff_names kept).mpr ⟨owned, named⟩⟩

end ComputeCloudNode.Weights
