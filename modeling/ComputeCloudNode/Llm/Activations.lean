import ComputeCloudNode.Llm.GenerationPayloads
import ComputeCloudNode.TensorShapes

/-! Activations on the wire. `_torch_to_tensor_payload` packs a tensor and
`_tensor_payload_to_torch` builds one from what was packed, with `torch.tensor` finding
the shape again from the nested list. A shape with a zero may be lost on the way; the
hidden states that one shard hands to the next are not. -/
namespace ComputeCloudNode.LLMShardExecutor
open Bytes ModelShard TensorFormat

variable {F : Type}

/-- A tensor on the CPU, its elements in row-major order. -/
structure TorchTensor (F : Type) where
  shape : List Int
  data : List (Value F)
  natural : ∀ dim ∈ shape, 0 ≤ dim
  sized : (data.length : Int) = prod shape

/-- What the client uses of torch. -/
structure TorchLibrary (F : Type) where
  /-- `.float()` of one element. -/
  float : Value F → Value F
  /-- A number that the dtype holds as it is. -/
  holds : String → Value F → Prop
  /-- `torch.tensor(nested, dtype=...)`. -/
  tensor : String → Value F → Except String (TorchTensor F)

/-- What is documented of `torch.tensor`: nested lists that have the same sizes at each
level become the tensor of these sizes with their numbers in order. Below an empty list
there are no sizes. -/
structure TorchLibrary.Documented (torch : TorchLibrary F) : Prop where
  scalar : ∀ dtype v, torch.holds dtype v → ∀ items, v ≠ .list items
  tensor : ∀ dtype sizes v, Rectangular (torch.holds dtype) sizes v → cutAtZero sizes = sizes →
    ∃ tensor, torch.tensor dtype v = .ok tensor ∧ tensor.shape = sizes ∧ tensor.data = leaves v

/-! ### Packing and unpacking -/

section Payload

variable [PyRuntime F] (floats : FloatCodecs F) (torch : TorchLibrary F)

/-- `_torch_to_tensor_payload`. -/
def torchToTensorPayload (tensor : TorchTensor F) : Except String (Dict F) := do
  let packed ← pack floats.single (tensor.data.map torch.float)
  let payload := { shape := tensor.shape, dtype := "float32", dataB64 := String.ofList (Base64.encode packed) }
  validate floats payload defaultMaxDecodedBytes
  return toDict payload

/-- `_tensor_payload_to_torch`. -/
def tensorPayloadToTorch (payloadDict : Value F) : Except String (TorchTensor F) := do
  match payloadDict with
  | .dict data =>
    let payload ← fromDict floats data defaultMaxDecodedBytes
    let nested ← toNestedList floats payload
    torch.tensor payload.dtype nested
  | v => throw s!"'{v.typeName}' object has no attribute 'get'"

/-- A tensor is packed by one node and unpacked by another. -/
def transfer (tensor : TorchTensor F) : Except String (TorchTensor F) := do
  let packed ← torchToTensorPayload floats torch tensor
  tensorPayloadToTorch floats torch (.dict packed)

end Payload

/-! ### The shape that arrives -/

/-- `_reshape` makes empty lists of a shape with a zero, and `torch.tensor` sees no more
than these: the first dimension, and a zero. -/
def carriedShape : List Int → List Int
  | [] => []
  | [dim] => [dim]
  | dim :: next :: rest =>
    if dim = 0 then [0] else if 0 ∈ next :: rest then [dim, 0] else dim :: next :: rest

theorem carriedShape_eq_iff {shape : List Int} :
    carriedShape shape = shape ↔ (0 ∈ shape → shape = [0] ∨ ∃ rows, rows ≠ 0 ∧ shape = [rows, 0]) := by
  match shape with
  | [] => simp [carriedShape]
  | [dim] => simp [carriedShape, eq_comm]
  | dim :: next :: rest =>
    by_cases first : dim = 0
    · subst first
      simp [carriedShape]
    · by_cases later : 0 ∈ next :: rest
      · simp [carriedShape, first, later, eq_comm]
      · simp [carriedShape, first, later, Ne.symm first]

section Reshape

variable {P : Value F → Prop} {shape rest : List Int} {dim : Int} {flat : List (Value F)}

theorem carriedShape_cut (shape : List Int) : cutAtZero (carriedShape shape) = carriedShape shape := by
  match shape with
  | [] => rfl
  | [dim] => by_cases zero : dim = 0 <;> simp [carriedShape, cutAtZero, zero]
  | dim :: next :: rest =>
    by_cases first : dim = 0
    · simp [carriedShape, cutAtZero, first]
    · by_cases later : 0 ∈ next :: rest
      · rw [carriedShape, if_neg first, if_pos later, cutAtZero, if_neg first, cutAtZero, if_pos rfl]
      · rw [carriedShape, if_neg first, if_neg later]
        apply cutAtZero_nonzero
        rintro d member rfl
        exact (List.mem_cons.mp member).elim (fun same => first same.symm) later

theorem leavesOf_scalars (scalar : ∀ v ∈ flat, ∀ items, v ≠ .list items) : leavesOf flat = flat := by
  rw [leavesOf_eq, List.map_congr_left fun v member => leaves_leaf (scalar v member), ← List.flatMap_def,
    List.flatMap_singleton']

/-- The chunks of `_reshape` hold the elements one after the other. -/
theorem leaves_reshape (positive : ∀ d ∈ dim :: rest, 1 ≤ d) (scalar : ∀ v ∈ flat, ∀ items, v ≠ .list items)
    (sized : (flat.length : Int) = prod (dim :: rest)) : leaves (reshape flat (dim :: rest)) = flat := by
  induction rest generalizing dim flat with
  | nil =>
    rw [reshape, leaves]
    exact leavesOf_scalars scalar
  | cons next rest ih =>
    obtain ⟨here, below⟩ := List.forall_mem_cons.mp positive
    have chunk := prod_pos below
    have whole : flat.length = dim.toNat * (prod (next :: rest)).toNat := by
      zify
      rw [Int.toNat_of_nonneg (by omega), Int.toNat_of_nonneg chunk.le, ← prod_cons, sized]
    have chunks : ((List.range dim.toNat).map fun i => reshape (slice flat (prod (next :: rest)).toNat i)
        (next :: rest)).map leaves = (List.range dim.toNat).map (slice flat (prod (next :: rest)).toNat) := by
      rw [List.map_map]
      apply List.map_congr_left
      intro i inside
      apply ih below fun v member => scalar v (mem_of_mem_slice member)
      rw [slice_length (List.mem_range.mp inside) whole.ge, Int.toNat_of_nonneg chunk.le]
    rw [reshape, if_neg chunk.ne', leaves, leavesOf_eq, chunks, flatten_slices whole]

/-- `_reshape` nests its elements by what is left of the shape. -/
theorem reshape_carried (natural : ∀ d ∈ shape, 0 ≤ d) (elements : ∀ v ∈ flat, P v)
    (scalar : ∀ v, P v → ∀ items, v ≠ .list items) (sized : (flat.length : Int) = prod shape) :
    Rectangular P (carriedShape shape) (reshape flat shape) ∧ leaves (reshape flat shape) = flat := by
  have leaf : ∀ v ∈ flat, ∀ items, v ≠ .list items := fun v member => scalar v (elements v member)
  cases shape with
  | nil =>
    obtain ⟨v, rfl⟩ := List.length_eq_one_iff.mp (Int.ofNat_inj.mp sized)
    exact ⟨elements v List.mem_cons_self, leaves_leaf (leaf v List.mem_cons_self)⟩
  | cons dim later =>
    cases later with
    | nil =>
      rw [prod_cons] at sized
      exact ⟨⟨flat, rfl, sized.trans (Int.mul_one dim), elements⟩, leavesOf_scalars leaf⟩
    | cons next rest =>
      obtain ⟨here, below⟩ := List.forall_mem_cons.mp natural
      by_cases first : dim = 0
      · -- There are no chunks, so nothing is known of the other dimensions.
        subst first
        rw [prod_cons, Int.zero_mul] at sized
        have empty : flat = [] := List.eq_nil_of_length_eq_zero (Int.ofNat_eq_zero.mp sized)
        have none_ : reshape flat (0 :: next :: rest) = .list [] := by
          rw [reshape]
          split <;> rfl
        rw [none_, empty, carriedShape, if_pos rfl]
        exact ⟨⟨[], rfl, rfl, by simp⟩, rfl⟩
      · by_cases later : 0 ∈ next :: rest
        · rw [prod_cons, prod_zero later, Int.mul_zero] at sized
          have empty : flat = [] := List.eq_nil_of_length_eq_zero (Int.ofNat_eq_zero.mp sized)
          rw [carriedShape, if_neg first, if_pos later, reshape_later_zero later, empty]
          refine ⟨⟨_, rfl, by rw [List.length_replicate, Int.toNat_of_nonneg here], fun item member => ?_⟩, ?_⟩
          · rw [List.eq_of_mem_replicate member]
            exact ⟨[], rfl, rfl, by simp⟩
          · rw [leaves, leavesOf_eq, List.map_replicate]
            exact List.flatten_replicate_nil
        · have positive : ∀ d ∈ dim :: next :: rest, 1 ≤ d := by
            intro d member
            have := natural d member
            have : d ≠ 0 := by
              rintro rfl
              exact (List.mem_cons.mp member).elim (fun same => first same.symm) later
            omega
          rw [carriedShape, if_neg first, if_neg later]
          exact ⟨reshape_rectangular positive elements sized, leaves_reshape positive leaf sized⟩

end Reshape

/-! ### From one node to the next -/

section Transfer

variable [PyRuntime F] {floats : FloatCodecs F} {torch : TorchLibrary F} {tensor : TorchTensor F}

/-- As `float32` the elements of a tensor are kept by `struct` and by torch. -/
structure SinglePrecision (floats : FloatCodecs F) (torch : TorchLibrary F) (tensor : TorchTensor F) : Prop where
  survives : ∀ v ∈ tensor.data, Survives floats.single 4 (torch.float v)
  held : ∀ v ∈ tensor.data, torch.holds "float32" (torch.float v)

omit [PyRuntime F] in
theorem SinglePrecision.survivesAll (single : SinglePrecision floats torch tensor) :
    ∀ v ∈ tensor.data.map torch.float, Survives floats.single 4 v :=
  List.forall_mem_map.mpr single.survives

/-- Only the cap keeps a tensor from being packed. -/
theorem torchToTensorPayload_ok (single : SinglePrecision floats torch tensor)
    (fits : prod tensor.shape * 4 ≤ defaultMaxDecodedBytes) : ∃ raw,
    torchToTensorPayload floats torch tensor =
        .ok (toDict { shape := tensor.shape, dtype := "float32", dataB64 := String.ofList (Base64.encode raw) }) ∧
      validate floats { shape := tensor.shape, dtype := "float32", dataB64 := String.ofList (Base64.encode raw) }
        defaultMaxDecodedBytes = .ok () ∧
      unpack floats.single 4 (prod tensor.shape).toNat raw = tensor.data.map torch.float := by
  obtain ⟨raw, packed, length, unpacked⟩ := unpack_pack single.survivesAll
  rw [List.length_map] at length unpacked
  have known : dtypeInfo floats "float32" = some (floats.single, 4) := rfl
  have expected : (raw.length : Int) = prod tensor.shape * (4 : Nat) := by
    rw [length, Nat.cast_mul, tensor.sized]
  have valid := validate_encode known tensor.natural expected fits
  refine ⟨raw, ?_, valid, ?_⟩
  · simp only [torchToTensorPayload, packed, Fallible.bind_ok, valid]
    rfl
  · rw [← tensor.sized, Int.toNat_natCast, unpacked]

theorem torchToTensorPayload_large (large : defaultMaxDecodedBytes < prod tensor.shape * 4) (packed : Dict F) :
    torchToTensorPayload floats torch tensor ≠ .ok packed := by
  intro ran
  simp only [torchToTensorPayload, Fallible.bind_eq_ok_iff] at ran
  obtain ⟨_, _, _, valid, _⟩ := ran
  obtain ⟨_, codec, size, _, known, _, _, fits⟩ := validate_ok_iff.mp valid
  cases Option.some.inj known
  exact absurd fits (not_le.mpr large)

/-- What is packed arrives, with the shape that is left of it. -/
theorem transfer_ok (documented : torch.Documented) (single : SinglePrecision floats torch tensor)
    (fits : prod tensor.shape * 4 ≤ defaultMaxDecodedBytes) :
    ∃ received, transfer floats torch tensor = .ok received ∧ received.shape = carriedShape tensor.shape ∧
      received.data = tensor.data.map torch.float := by
  obtain ⟨raw, packed, valid, unpacked⟩ := torchToTensorPayload_ok single fits
  have sized : ((tensor.data.map torch.float).length : Int) = prod tensor.shape := by
    rw [List.length_map, tensor.sized]
  have known : lookupDtype floats "float32" = .ok (floats.single, 4) := rfl
  have nested : toNestedList floats
      { shape := tensor.shape, dtype := "float32", dataB64 := String.ofList (Base64.encode raw) } =
        .ok (reshape (tensor.data.map torch.float) tensor.shape) := by
    simp only [toNestedList, valid, known, decodeData_encode, Fallible.bind_ok, unpacked]
    split
    next empty =>
      have rank : tensor.shape ≠ [] := by
        intro scalar
        rw [scalar] at empty
        exact absurd empty (by decide)
      have none_ : tensor.data.map torch.float = [] :=
        List.eq_nil_of_length_eq_zero (Int.ofNat_eq_zero.mp (sized.trans empty))
      rw [if_neg rank, none_]
      rfl
    next => rfl
  obtain ⟨regular, order⟩ := reshape_carried tensor.natural (List.forall_mem_map.mpr single.held)
    (documented.scalar "float32") sized
  obtain ⟨received, built, shape, data⟩ := documented.tensor "float32" _ _ regular (carriedShape_cut tensor.shape)
  rw [order] at data
  refine ⟨received, ?_, shape, data⟩
  simp only [transfer, packed, Fallible.bind_ok, tensorPayloadToTorch, fromDict_toDict valid, nested]
  exact built

/-- A `float32` tensor of any shape arrives as it was sent exactly if it has at most
256 MB and, if a dimension is zero, it has no dimensions but that one or one before it. -/
theorem activation_round_trip_iff (documented : torch.Documented) (single : SinglePrecision floats torch tensor) :
    (∃ received, transfer floats torch tensor = .ok received ∧ received.shape = tensor.shape ∧
        received.data = tensor.data.map torch.float) ↔
      prod tensor.shape * 4 ≤ 256 * 1024 * 1024 ∧
        (0 ∈ tensor.shape → tensor.shape = [0] ∨ ∃ rows, rows ≠ 0 ∧ tensor.shape = [rows, 0]) := by
  by_cases fits : prod tensor.shape * 4 ≤ defaultMaxDecodedBytes
  · obtain ⟨received, ran, shape, data⟩ := transfer_ok documented single fits
    rw [← carriedShape_eq_iff]
    constructor
    · rintro ⟨other, again, same, _⟩
      cases ran.symm.trans again
      exact ⟨fits, shape.symm.trans same⟩
    · rintro ⟨_, same⟩
      exact ⟨received, ran, shape.trans same, data⟩
  · constructor
    · rintro ⟨_, ran, _⟩
      obtain ⟨packed, sent, _⟩ := Fallible.bind_eq_ok_iff.mp ran
      exact absurd sent (torchToTensorPayload_large (not_le.mp fits) packed)
    · rintro ⟨small, _⟩
      exact absurd small fits

end Transfer

/-- A row of two floats. -/
def rowTensor : TorchTensor Int where
  shape := [1, 2]
  data := [.float 1, .float 2]
  natural := by decide
  sized := rfl

/-- Two empty matrices of three rows. -/
def emptyTensor : TorchTensor Int where
  shape := [2, 3, 0]
  data := []
  natural := by decide
  sized := rfl

/-- `torch.tensor` where every number is held as it is. -/
def exactTensor (v : Value Int) : Except String (TorchTensor Int) :=
  if sized : ((leaves v).length : Int) = prod (inferShape v) then
    .ok ⟨inferShape v, leaves v, inferShape_natural v, sized⟩
  else .error "expected sequence of equal length"

def exactTorch : TorchLibrary Int := ⟨id, fun _ v => ∃ n, v = .float n, fun _ v => exactTensor v⟩

theorem exactTorch_documented : exactTorch.Documented := by
  have scalar : ∀ v : Value Int, (∃ n, v = .float n) → ∀ items, v ≠ .list items := by
    rintro _ ⟨n, rfl⟩ items same
    cases same
  refine ⟨fun _ => scalar, fun dtype sizes v regular cut => ?_⟩
  have inferred : inferShape v = sizes := (regular.inferShape_cut scalar).trans cut
  have sized : ((leaves v).length : Int) = prod (inferShape v) := by
    rw [inferred]
    exact regular.leaves_length scalar
  exact ⟨_, dif_pos sized, inferred, rfl⟩

theorem activation_round_trip_iff_row :
    (∃ received, transfer twoFloats exactTorch rowTensor = .ok received ∧ received.shape = [1, 2] ∧
      received.data = [.float 1, .float 2]) ∧
    ¬ ∃ received, transfer twoFloats exactTorch emptyTensor = .ok received ∧ received.shape = [2, 3, 0] ∧
      received.data = [] := by
  constructor
  · have single : SinglePrecision twoFloats exactTorch rowTensor := by
      refine ⟨List.forall_mem_cons.mpr ⟨?_, List.forall_mem_singleton.mpr ?_⟩, by simp [rowTensor, exactTorch]⟩
      · exact ⟨.inr ⟨1, rfl⟩, _, rfl, rfl, rfl⟩
      · exact ⟨.inr ⟨2, rfl⟩, _, rfl, rfl, rfl⟩
    exact (activation_round_trip_iff exactTorch_documented single).mpr ⟨by decide, fun zero => absurd zero (by decide)⟩
  · have single : SinglePrecision twoFloats exactTorch emptyTensor := ⟨nofun, nofun⟩
    intro arrived
    have kept := ((activation_round_trip_iff exactTorch_documented single).mp arrived).2
    simp [emptyTensor] at kept

/-! ### Hidden states -/

/-- How the rows of hidden states lie in a tensor `[1, seq, hidden]`. -/
structure HiddenStates (F Row : Type) where
  hidden : Nat
  positive : 0 < hidden
  elements : Row → List (Value F)
  width : ∀ row, (elements row).length = hidden
  rowsOf : TorchTensor F → Except String (List Row)
  reads : ∀ (rows : List Row) (tensor : TorchTensor F), tensor.shape = [1, (rows.length : Int), (hidden : Int)] →
    tensor.data = (rows.map elements).flatten → rowsOf tensor = .ok rows

variable {Row Tensor Head Score Logits : Type} {layout : HeadLayout}

def HiddenStates.tensor (states : HiddenStates F Row) (rows : List Row) : TorchTensor F where
  shape := [1, (rows.length : Int), (states.hidden : Int)]
  data := (rows.map states.elements).flatten
  natural := by simp
  sized := by
    have lengths : ∀ piece ∈ rows.map states.elements, piece.length = states.hidden :=
      List.forall_mem_map.mpr fun row _ => states.width row
    rw [flatten_length lengths, List.length_map]
    simp [prod]

/-- The hidden states that a shard packs are the ones that the next shard unpacks. -/
theorem wire_of_hiddenStates [PyRuntime F] (floats : FloatCodecs F) (torch : TorchLibrary F)
    (documented : torch.Documented) (states : HiddenStates F Row)
    {model : LlamaArithmetic (Value F) Tensor Row Head Score Logits layout}
    {lib : JsonLibrary F Row} {pack : List (Item Row Logits) → Dict F}
    (single : ∀ rows, SinglePrecision floats torch (states.tensor rows))
    (float : ∀ row, ∀ v ∈ states.elements row, torch.float v = v)
    (validates : ∀ rows : List Row, model.validate (rows.map .hidden) =
      (torchToTensorPayload floats torch (states.tensor rows)).map fun _ => ())
    (packs : ∀ rows packed, torchToTensorPayload floats torch (states.tensor rows) = .ok packed →
      pack (rows.map .hidden) = packed)
    (unpacks : ∀ v, lib.tensor v = tensorPayloadToTorch floats torch v >>= states.rowsOf) :
    Deployment.Wire model lib pack := by
  intro rows some_ valid
  rw [validates] at valid
  cases sent : torchToTensorPayload floats torch (states.tensor rows) with
  | error text =>
    rw [sent] at valid
    cases valid
  | ok packed =>
    have fits : prod (states.tensor rows).shape * 4 ≤ defaultMaxDecodedBytes := by
      by_contra large
      exact torchToTensorPayload_large (not_le.mp large) packed sent
    have full : carriedShape (states.tensor rows).shape = (states.tensor rows).shape := by
      have length := List.length_pos_of_ne_nil some_
      have positive := states.positive
      apply carriedShape_eq_iff.mpr
      intro zero
      simp only [HiddenStates.tensor, List.mem_cons, List.not_mem_nil, or_false] at zero
      omega
    have same : (states.tensor rows).data.map torch.float = (states.tensor rows).data := by
      conv_rhs => rw [← List.map_id (states.tensor rows).data]
      apply List.map_congr_left
      intro v member
      obtain ⟨_, chunk, inside⟩ := List.mem_flatten.mp member
      obtain ⟨row, _, rfl⟩ := List.mem_map.mp chunk
      exact float row v inside
    obtain ⟨received, ran, shape, data⟩ := transfer_ok documented (single rows) fits
    rw [packs rows packed sent, unpacks]
    simp only [transfer, sent, Fallible.bind_ok] at ran
    rw [ran, Fallible.bind_ok]
    exact states.reads rows received (shape.trans full) (data.trans same)

end ComputeCloudNode.LLMShardExecutor
