import ComputeCloudNode.Lib.Mealy
import ComputeCloudNode.Llm.ModelShard

/-! Incremental decoding. One decoder layer is a machine that reads one row at a
time: it appends the row's key and value to its cache and attends to the whole
cache. The batched forward pass of the code is a run of that machine, so cutting
a sequence into passes changes neither the outputs nor the final cache. -/
namespace ComputeCloudNode.ModelShard
open Mealy

variable {Row Head Score Logits : Type} {layout : HeadLayout}
  {kernels : Kernels Row Head Score} {attn : LlamaAttention layout Row Head}
  {layer : LlamaDecoderLayer layout Row Head} {kv : Kv layout Head}

theorem ropePositions_succ (n : Nat) (offset : Int) :
    ropePositions (n + 1) offset = offset :: ropePositions n (offset + 1) := by
  rw [ropePositions, ropePositions, List.range_succ_eq_map, List.map_cons, List.map_map]
  refine List.cons_eq_cons.mpr ⟨by simp, List.map_congr_left fun index _ => ?_⟩
  simp only [Function.comp_apply]
  omega

theorem filter_zipIdx_lt {α : Type} (xs : List α) (start n : Nat) :
    ((xs.zipIdx start).filter fun entry => entry.2 < start + n).map Prod.fst = xs.take n := by
  induction xs generalizing start n with
  | nil => simp
  | cons x xs ih =>
    cases n with
    | zero =>
      rw [List.take_zero, List.map_eq_nil_iff, List.filter_eq_nil_iff]
      intro entry member
      have bound := List.le_snd_of_mem_zipIdx member
      simpa using bound
    | succ n =>
      have rest := ih (start + 1) n
      rw [show start + 1 + n = start + (n + 1) by omega] at rest
      simp only [List.zipIdx_cons, List.take_succ_cons]
      rw [List.filter_cons_of_pos (by simp), List.map_cons, rest]

/-- A query sees the cache up to and including its own position. -/
theorem visible_eq (pastLen : Nat) (kv : Kv layout Head) (i : Nat) :
    visible pastLen kv i = (kv.k.zip kv.v).take (pastLen + i + 1) := by
  have taken := filter_zipIdx_lt (kv.k.zip kv.v) 0 (pastLen + i + 1)
  rw [← taken, visible]
  refine congrArg (List.map Prod.fst) (List.filter_congr fun entry _ => ?_)
  rw [causalMask, ← decide_not, decide_eq_decide]
  omega

/-- One row enters the attention of a layer. -/
def LlamaAttention.step (kernels : Kernels Row Head Score) (attn : LlamaAttention layout Row Head) :
    Machine (Kv layout Head) Row Row := fun kv x =>
  let kv' := kv.cat (attn.newKv kernels [(x, kv.length)])
  (attn.oProj (attendRow kernels (attn.query kernels x kv.length) (kv'.k.zip kv'.v)), kv')

namespace Kv

theorem ext_iff' {left right : Kv layout Head} (k : left.k = right.k) (v : left.v = right.v) : left = right := by
  cases left
  cases right
  cases k
  cases v
  rfl

theorem cat_assoc (first second third : Kv layout Head) :
    (first.cat second).cat third = first.cat (second.cat third) :=
  ext_iff' (List.append_assoc ..) (List.append_assoc ..)

theorem cat_empty (past : Kv layout Head) : past.cat .empty = past :=
  ext_iff' (List.append_nil _) (List.append_nil _)

end Kv

theorem LlamaAttention.newKv_cons (entry : Row × Int) (rows : List (Row × Int)) :
    attn.newKv kernels (entry :: rows) = (attn.newKv kernels [entry]).cat (attn.newKv kernels rows) := rfl

theorem LlamaAttention.length_newKv (rows : List (Row × Int)) :
    (attn.newKv kernels rows).length = rows.length := List.length_map ..

/-- The rows of one pass with their absolute positions. -/
def positioned (xs : List Row) (offset : Int) : List (Row × Int) := xs.zip (ropePositions xs.length offset)

theorem positioned_cons (x : Row) (xs : List Row) (offset : Int) :
    positioned (x :: xs) offset = (x, offset) :: positioned xs (offset + 1) := by
  rw [positioned, List.length_cons, ropePositions_succ, List.zip_cons_cons, positioned]

/-- The attention outputs of one pass. -/
def LlamaAttention.attended (kernels : Kernels Row Head Score) (attn : LlamaAttention layout Row Head)
    (rows : List (Row × Int)) (pastLen : Nat) (kv : Kv layout Head) : List Row :=
  (rows.map fun (x, position) => attn.query kernels x position).mapIdx fun i query =>
    attn.oProj (attendRow kernels query (visible pastLen kv i))

/-- The first query of a pass sees the old cache and its own key. -/
theorem visible_first (kv new : Kv layout Head) (pastLen : Nat) (longer : kv.length = pastLen + 1) :
    visible pastLen (kv.cat new) 0 = kv.k.zip kv.v := by
  have size : (kv.k.zip kv.v).length = pastLen + 0 + 1 := by
    rw [List.length_zip, ← kv.aligned, Nat.min_self]
    exact longer
  rw [visible_eq]
  simp only [Kv.cat]
  rw [List.zip_append kv.aligned, ← size, List.take_left]

/-- The later queries see what they would see with the first key cached. -/
theorem visible_succ (kv : Kv layout Head) (pastLen i : Nat) :
    visible pastLen kv (i + 1) = visible (pastLen + 1) kv i := by
  rw [visible_eq, visible_eq, show pastLen + (i + 1) + 1 = pastLen + 1 + i + 1 by omega]

theorem LlamaAttention.attended_cons (x : Row) (position : Int) (rows : List (Row × Int)) (pastLen : Nat)
    (kv new : Kv layout Head) (longer : kv.length = pastLen + 1) :
    attn.attended kernels ((x, position) :: rows) pastLen (kv.cat new) =
      attn.oProj (attendRow kernels (attn.query kernels x position) (kv.k.zip kv.v)) ::
        attn.attended kernels rows (pastLen + 1) (kv.cat new) := by
  simp only [attended, List.map_cons, List.mapIdx_cons, visible_first kv new pastLen longer, visible_succ]

/-- A batched pass is the run of the one-row machine. -/
theorem LlamaAttention.attended_eq_run (xs : List Row) (kv : Kv layout Head) :
    (attn.attended kernels (positioned xs kv.length) kv.length
        (kv.cat (attn.newKv kernels (positioned xs kv.length))),
      kv.cat (attn.newKv kernels (positioned xs kv.length))) = run (attn.step kernels) kv xs := by
  induction xs generalizing kv with
  | nil => exact Prod.ext rfl (Kv.cat_empty kv)
  | cons x xs ih =>
    have longer : (kv.cat (attn.newKv kernels [(x, (kv.length : Int))])).length = kv.length + 1 :=
      Kv.length_cat ..
    have rest := ih (kv.cat (attn.newKv kernels [(x, (kv.length : Int))]))
    rw [longer, Int.natCast_add, Int.natCast_one] at rest
    rw [positioned_cons, newKv_cons, ← Kv.cat_assoc, attended_cons _ _ _ _ _ _ longer, run_cons]
    simp only [step, ← rest]

variable (kernels attn) in
/-- `LlamaAttention.forward` on a non-empty pass. -/
theorem LlamaAttention.forward_eq_run {xs : List Row} (some_ : xs ≠ []) (past : Option (Kv layout Head))
    (held : past.getD .empty = kv) :
    attn.forward kernels xs (ropePositions xs.length kv.length) past = .ok (run (attn.step kernels) kv xs) := by
  have pastLen : (kv.cat (attn.newKv kernels (positioned xs kv.length))).length - xs.length = kv.length := by
    rw [Kv.length_cat, length_newKv, positioned, List.length_zip, ropePositions_length, Nat.min_self]
    omega
  rw [← attended_eq_run]
  simp only [forward, List.isEmpty_eq_false_iff.mpr some_, Bool.false_eq_true, if_false]
  rw [← positioned, Kv.extend_eq, held, pastLen, attended]

/-- One row enters a decoder layer. -/
def LlamaDecoderLayer.step (kernels : Kernels Row Head Score) (layer : LlamaDecoderLayer layout Row Head) :
    Machine (Kv layout Head) Row Row := fun kv x =>
  let (h, kv') := layer.selfAttn.step kernels kv (layer.inputLayernorm x)
  let x := kernels.add x h
  (kernels.add x (layer.mlp (layer.postAttentionLayernorm x)), kv')

variable (kernels layer) in
theorem LlamaDecoderLayer.forward_eq_run {xs : List Row} (some_ : xs ≠ []) (past : Option (Kv layout Head))
    (held : past.getD .empty = kv) :
    layer.forward kernels xs (ropePositions xs.length kv.length) past = .ok (run (layer.step kernels) kv xs) := by
  have prepared : xs.map layer.inputLayernorm ≠ [] := by simpa using some_
  have attended := LlamaAttention.forward_eq_run kernels layer.selfAttn prepared past held
  rw [List.length_map, run_map] at attended
  simp only [forward, attended, bind, Except.bind, pure, Except.pure]
  rw [List.zipWith_map_right, List.zipWith_self, List.map_zipWith]
  exact congrArg Except.ok (run_zipWith _ xs)

/-- Every row makes the cache of a layer longer by one. -/
theorem LlamaDecoderLayer.step_length (kv : Kv layout Head) (x : Row) :
    (layer.step kernels kv x).2.length = kv.length + 1 := Kv.length_cat ..

theorem nonempty_run (machine : Machine (Kv layout Head) Row Row) (kv : Kv layout Head) {xs : List Row}
    (some_ : xs ≠ []) : (run machine kv xs).1 ≠ [] := by
  intro none_
  have size := run_length machine kv xs
  rw [none_] at size
  exact some_ (List.eq_nil_of_length_eq_zero size.symm)

open TorchShardModule

variable (kernels) in
/-- The layer loop on a non-empty pass, when each layer is given a cache of the
same length. -/
theorem runLayers_eq_layered (layers : List (LlamaDecoderLayer layout Row Head)) {xs : List Row}
    (some_ : xs ≠ []) {states : List (Kv layout Head)} {offset : Nat}
    {pastOf : Nat → Except String (Option (Kv layout Head))} (li : Nat)
    (same : states.length = layers.length)
    (given : ∀ j kv, states[j]? = some kv → kv.length = offset ∧
      ∃ past, pastOf (li + j) = .ok past ∧ past.getD .empty = kv) :
    runLayers (ropePositions xs.length offset) pastOf li (layers.map fun layer => layer.forward kernels) xs =
      .ok (layered (layers.map fun layer => layer.step kernels) states xs) := by
  induction layers generalizing xs states li with
  | nil => rw [List.map_nil, List.map_nil, layered_nil, runLayers]
  | cons layer layers ih =>
    cases states with
    | nil => cases same
    | cons kv states =>
      obtain ⟨length, past, handed, held⟩ := given 0 kv rfl
      have here := LlamaDecoderLayer.forward_eq_run kernels layer some_ past held
      rw [length] at here
      rw [Nat.add_zero] at handed
      have below := ih (nonempty_run (layer.step kernels) kv some_) (li + 1) (Nat.succ.inj same)
        (fun j kv at_ => by
          rw [show li + 1 + j = li + (j + 1) by omega]
          exact given (j + 1) kv at_)
      rw [run_length] at below
      simp only [List.map_cons, runLayers, handed, here, below, layered_cons, bind, Except.bind, pure,
        Except.pure]

/-- A cache of a shard: one entry for each layer, all of the same length. -/
structure Coherent (layers : List (LlamaDecoderLayer layout Row Head)) (size : Nat)
    (states : List (Kv layout Head)) : Prop where
  entries : states.length = layers.length
  sized : ∀ kv ∈ states, kv.length = size

/-- The cache before the first pass. -/
def freshKv (layers : List (LlamaDecoderLayer layout Row Head)) : List (Kv layout Head) :=
  List.replicate layers.length .empty

variable {layers : List (LlamaDecoderLayer layout Row Head)} {states : List (Kv layout Head)} {size : Nat}

theorem fresh_coherent (layers : List (LlamaDecoderLayer layout Row Head)) :
    Coherent layers 0 (freshKv layers) :=
  ⟨List.length_replicate, fun _ member => by rw [List.eq_of_mem_replicate member]; rfl⟩

theorem Coherent.layered (coherent : Coherent layers size states) (xs : List Row) :
    Coherent layers (size + xs.length)
      (layered (layers.map fun layer => layer.step kernels) states xs).2 := by
  constructor
  · rw [layered_states_length (by rw [coherent.entries, List.length_map]), List.length_map]
  · refine layered_measure ?_ coherent.sized xs
    intro machine member
    obtain ⟨layer, _, rfl⟩ := List.mem_map.mp member
    exact LlamaDecoderLayer.step_length

/-- What the layer loop hands out from the list a cached pass returned. -/
theorem pastKv_some (coherent : Coherent layers size states) (j : Nat) (kv : Kv layout Head)
    (at_ : states[j]? = some kv) :
    kv.length = size ∧ ∃ past, pastKv true (some states) (0 + j) = .ok past ∧ past.getD .empty = kv := by
  refine ⟨coherent.sized kv (List.mem_of_getElem? at_), some kv, ?_, rfl⟩
  cases states with
  | nil => cases at_
  | cons first rest => simp only [pastKv, Nat.zero_add, at_, if_true]

/-- Without a cache every layer is handed none. -/
theorem pastKv_none (hasCache : Bool) (j : Nat) (kv : Kv layout Head)
    (at_ : (freshKv layers)[j]? = some kv) :
    kv.length = 0 ∧ ∃ past : Option (Kv layout Head),
      pastKv hasCache none (0 + j) = .ok past ∧ past.getD .empty = kv := by
  have fresh : kv = .empty := List.eq_of_mem_replicate (List.mem_of_getElem? at_)
  exact ⟨by rw [fresh]; rfl, none, rfl, fresh.symm⟩

variable {embedTokens : Option (Int → Except String Row)} {head : Option (OutputHead Row Logits)}

/-- Decoding one position after the other: it is embedded, passes the machines of
all layers and is finished. -/
def decode (kernels : Kernels Row Head Score) (embedTokens : Option (Int → Except String Row))
    (layers : List (LlamaDecoderLayer layout Row Head)) (head : Option (OutputHead Row Logits))
    (states : List (Kv layout Head)) (items : List (Item Row Logits)) :
    Except String (List (Item Row Logits) × List (Kv layout Head)) :=
  (items.mapM (llamaShard kernels embedTokens layers head).embed).map fun rows =>
    let answers := layered (layers.map fun layer => layer.step kernels) states rows
    (answers.1.map (finishRow head), answers.2)

theorem decode_nil (entries : states.length = layers.length) :
    decode kernels embedTokens layers head states [] = .ok ([], states) := by
  have same : states.length = (layers.map fun layer => layer.step kernels).length := by
    rw [entries, List.length_map]
  simp only [decode, List.mapM_nil, pure, Except.pure, Except.map, layered_empty same, List.map_nil]

/-- A sequence may be decoded in two pieces. -/
theorem decode_append (xs ys : List (Item Row Logits)) :
    decode kernels embedTokens layers head states (xs ++ ys) =
      (decode kernels embedTokens layers head states xs).bind fun (output, kvs) =>
        (decode kernels embedTokens layers head kvs ys).map fun (rest, last) => (output ++ rest, last) := by
  simp only [decode, List.mapM_append, bind, Except.bind, pure, Except.pure]
  cases xs.mapM (llamaShard kernels embedTokens layers head).embed with
  | error text => rfl
  | ok rows =>
    simp only [Except.map]
    cases ys.mapM (llamaShard kernels embedTokens layers head).embed with
    | error text => rfl
    | ok others => simp only [layered_append, List.map_append]

theorem Coherent.decode (coherent : Coherent layers size states) {xs output : List (Item Row Logits)}
    {kvs : List (Kv layout Head)}
    (decoded : decode kernels embedTokens layers head states xs = .ok (output, kvs)) :
    Coherent layers (size + xs.length) kvs := by
  unfold ModelShard.decode at decoded
  cases embedded : xs.mapM (llamaShard kernels embedTokens layers head).embed with
  | error text => rw [embedded] at decoded; cases decoded
  | ok rows =>
    rw [embedded] at decoded
    cases decoded
    rw [← Fallible.mapM_length embedded]
    exact coherent.layered rows

variable (kernels embedTokens) in
/-- One pass of an untied shard decodes its positions, given a cache of the right
length for every layer. -/
theorem forward_eq_decode (untied : Untied head) {chunk : List (Item Row Logits)} (some_ : chunk ≠ [])
    (past : Option (List (Kv layout Head))) (useCache : Option Bool)
    (allowed : (past.isSome && !useCache.getD false) = false) (entries : states.length = layers.length)
    (given : ∀ j kv, states[j]? = some kv → kv.length = size ∧
      ∃ handed, pastKv (useCache.getD false) past (0 + j) = .ok handed ∧ handed.getD .empty = kv) :
    (llamaShard kernels embedTokens layers head).forward chunk past size useCache =
      (decode kernels embedTokens layers head states chunk).map fun (output, kvs) =>
        (output, if useCache.getD false then some kvs else none) := by
  simp only [TorchShardModule.forward, allowed, decode, Bool.false_eq_true, if_false, bind, Except.bind, pure,
    Except.pure]
  cases embedded : chunk.mapM (llamaShard kernels embedTokens layers head).embed with
  | error text => rfl
  | ok rows =>
    have nonempty : rows ≠ [] := by
      intro none_
      have length := Fallible.mapM_length embedded
      rw [none_] at length
      exact some_ (List.eq_nil_of_length_eq_zero length.symm)
    have passed := runLayers_eq_layered kernels layers nonempty 0 entries given
    have finished := finish_untied (llamaShard kernels embedTokens layers head) untied
      (layered (layers.map fun layer => layer.step kernels) states rows).1
    simp only [llamaShard] at finished ⊢
    simp only [passed, finished, Except.map]

variable (kernels embedTokens) in
/-- If the first pass decodes and so do the later ones, the passes together decode
the whole sequence. -/
theorem forwardPasses_cons {chunk : List (Item Row Logits)} {chunks : List (List (Item Row Logits))}
    {past : Option (List (Kv layout Head))} (coherent : Coherent layers size states)
    (first : (llamaShard kernels embedTokens layers head).forward chunk past size (some true) =
      (decode kernels embedTokens layers head states chunk).map fun (output, kvs) => (output, some kvs))
    (later : ∀ size states, Coherent layers size states →
      forwardPasses (llamaShard kernels embedTokens layers head) (some states) size chunks =
        (decode kernels embedTokens layers head states chunks.flatten).map fun (output, kvs) => (output, some kvs)) :
    forwardPasses (llamaShard kernels embedTokens layers head) past size (chunk :: chunks) =
      (decode kernels embedTokens layers head states (chunk :: chunks).flatten).map fun (output, kvs) =>
        (output, some kvs) := by
  rw [List.flatten_cons, decode_append]
  simp only [forwardPasses, first, bind, Except.bind, pure, Except.pure]
  cases decoded : decode kernels embedTokens layers head states chunk with
  | error text => rfl
  | ok answer =>
    simp only [Except.map, later _ _ (coherent.decode decoded)]
    cases decode kernels embedTokens layers head answer.2 chunks.flatten <;> rfl

theorem forwardPasses_some (untied : Untied head) (chunks : List (List (Item Row Logits)))
    (nonempty : ∀ chunk ∈ chunks, chunk ≠ []) (size : Nat) (states : List (Kv layout Head))
    (coherent : Coherent layers size states) :
    forwardPasses (llamaShard kernels embedTokens layers head) (some states) size chunks =
      (decode kernels embedTokens layers head states chunks.flatten).map fun (output, kvs) => (output, some kvs) := by
  induction chunks generalizing states size with
  | nil =>
    rw [List.flatten_nil, decode_nil coherent.entries]
    rfl
  | cons chunk chunks ih =>
    obtain ⟨some_, rest⟩ := List.forall_mem_cons.mp nonempty
    exact forwardPasses_cons kernels embedTokens coherent
      (forward_eq_decode kernels embedTokens untied some_ _ _ rfl coherent.entries (pastKv_some coherent)) (ih rest)

/-- Incremental decoding of a non-empty sequence, cut into any non-empty passes,
gives the outputs of one full pass, and every layer's keys and values end up as
long as the sequence. -/
theorem incremental_eq_full (untied : Untied head) (chunks : List (List (Item Row Logits)))
    (some_ : chunks ≠ []) (nonempty : ∀ chunk ∈ chunks, chunk ≠ []) :
    (forwardPasses (llamaShard kernels embedTokens layers head) none 0 chunks).map Prod.fst =
        ((llamaShard kernels embedTokens layers head).forward chunks.flatten none 0 none).map Prod.fst ∧
      ∀ outputs last,
        forwardPasses (llamaShard kernels embedTokens layers head) none 0 chunks = .ok (outputs, last) →
          ∃ kvs, last = some kvs ∧ kvs.length = layers.length ∧ ∀ kv ∈ kvs,
            kv.k.length = chunks.flatten.length ∧ kv.v.length = chunks.flatten.length := by
  obtain ⟨chunk, rest, rfl⟩ := List.exists_cons_of_ne_nil some_
  obtain ⟨startsSome, restSome⟩ := List.forall_mem_cons.mp nonempty
  have fresh := fresh_coherent layers
  -- The first pass is given no cache, the later ones what the pass before returned.
  have passes := forwardPasses_cons kernels embedTokens fresh
    (forward_eq_decode kernels embedTokens untied startsSome _ _ rfl fresh.entries (pastKv_none true))
    (forwardPasses_some untied rest restSome)
  have flatSome : (chunk :: rest).flatten ≠ [] := by simp [startsSome]
  have full := forward_eq_decode kernels embedTokens untied flatSome none none rfl fresh.entries (pastKv_none false)
  rw [Int.natCast_zero] at full
  rw [passes, full]
  cases decoded : decode kernels embedTokens layers head (freshKv layers) (chunk :: rest).flatten with
  | error text => exact ⟨rfl, fun _ _ impossible => by cases impossible⟩
  | ok answer =>
    refine ⟨rfl, fun outputs last same => ?_⟩
    cases same
    have coherent := fresh.decode decoded
    refine ⟨answer.2, rfl, coherent.entries, fun kv member => ?_⟩
    have size := coherent.sized kv member
    rw [Nat.zero_add] at size
    exact ⟨size, kv.aligned ▸ size⟩

/-- Two query heads over one key/value head. -/
def groupedLayout : HeadLayout := ⟨2, 1, Nat.two_pos, Nat.one_pos, Nat.one_dvd 2⟩

/-- Integer arithmetic. -/
def integerKernels : Kernels Int Int Int where
  rope head position := head + position
  score q k := q * k
  attend seen := seen.foldr (fun (score, value) total => score * value + total) 0
  add x y := x + y

def integerLayer : LlamaDecoderLayer groupedLayout Int Int where
  inputLayernorm x := x + 1
  selfAttn :=
    { qProj := fun x head => x + head
      kProj := fun x _ => x
      vProj := fun x _ => 2 * x
      oProj := fun heads => heads ⟨0, by decide⟩ - heads ⟨1, by decide⟩ }
  postAttentionLayernorm x := x
  mlp x := 3 * x

/-- A whole model of two layers. -/
def integerShard : TorchShardModule Int (Kv groupedLayout Int) Int :=
  llamaShard integerKernels (some fun id => .ok id) [integerLayer, integerLayer]
    (some ⟨fun x => x, some fun x => x + 1⟩)

theorem incremental_eq_full_three_tokens :
    (forwardPasses integerShard none 0 [[.token 1, .token 2], [.token 3]]).map Prod.fst =
        .ok [.logits (-5943), .logits (-118647), .logits (-868479)] ∧
      (forwardPasses integerShard none 0 [[.token 1, .token 2], [.token 3]]).map Prod.fst =
        (integerShard.forward [.token 1, .token 2, .token 3] none 0 none).map Prod.fst :=
  ⟨rfl, (incremental_eq_full (by intro end_ same; cases same; rfl) _ (by decide)
    (by simp)).1⟩

end ComputeCloudNode.ModelShard
