import ComputeCloudNode.TensorFormat

/-! A rectangular nested list survives the wire. The stack of `_flatten` visits the
leaves from left to right, the leaves of each chunk of a list lie one after the other,
and `_reshape` cuts them apart again. -/
namespace ComputeCloudNode.TensorFormat
open Bytes

variable {F : Type} {P : Value F → Prop} {data : Value F} {shape : List Int}

/-! ### The leaves of a nested list -/

mutual

/-- What is no list, from left to right. -/
def leaves : Value F → List (Value F)
  | .list items => leavesOf items
  | v => [v]

def leavesOf : List (Value F) → List (Value F)
  | [] => []
  | v :: rest => leaves v ++ leavesOf rest

end

theorem leavesOf_append (left right : List (Value F)) :
    leavesOf (left ++ right) = leavesOf left ++ leavesOf right := by
  induction left with
  | nil => rfl
  | cons v left ih => rw [List.cons_append, leavesOf, leavesOf, ih, List.append_assoc]

theorem leavesOf_eq (items : List (Value F)) : leavesOf items = (items.map leaves).flatten := by
  induction items with
  | nil => rfl
  | cons v rest ih => rw [leavesOf, ih, List.map_cons, List.flatten_cons]

theorem leaves_leaf (leaf : ∀ items, data ≠ .list items) : leaves data = [data] := by
  cases data with
  | list items => exact absurd rfl (leaf items)
  | _ => rfl

/-- The stack holds what is still to be visited. -/
theorem flattenLoop_eq [PyRuntime F] (stack out : List (Value F)) :
    flattenLoop stack out = ((leavesOf stack).mapM number).map (out ++ ·) := by
  fun_induction flattenLoop stack out with
  | case1 out => simp [leavesOf, Except.map, pure, Except.pure]
  | case2 items stack out ih => rw [ih, leavesOf_append, leavesOf, leaves]
  | case3 item stack out leaf text refused =>
    rw [leavesOf, leaves_leaf leaf, List.singleton_append, List.mapM_cons, refused]
    rfl
  | case4 item stack out leaf appended accepted ih =>
    rw [ih, leavesOf, leaves_leaf leaf, List.singleton_append, List.mapM_cons, accepted]
    cases (leavesOf stack).mapM number <;> simp [Except.map, bind, Except.bind, pure, Except.pure]

theorem flatten_eq [PyRuntime F] (nested : Value F) : flatten nested = (leaves nested).mapM number := by
  rw [flatten, flattenLoop_eq, leavesOf, leavesOf, List.append_nil]
  cases (leaves nested).mapM number <;> rfl

/-! ### Rectangular lists -/

/-- Every list at a level has the length of that level, and what lies below the last
one satisfies `P`. -/
def Rectangular (P : Value F → Prop) : List Int → Value F → Prop
  | [], v => P v
  | dim :: rest, v => ∃ items, v = .list items ∧ items.length = dim ∧ ∀ item ∈ items, Rectangular P rest item

theorem Rectangular.mono {Q : Value F → Prop} (rect : Rectangular P shape data) (weaker : ∀ v, P v → Q v) :
    Rectangular Q shape data := by
  induction shape generalizing data with
  | nil => exact weaker _ rect
  | cons dim rest ih =>
    obtain ⟨items, listed, sized, below⟩ := rect
    exact ⟨items, listed, sized, fun item member => ih (below item member)⟩

theorem prod_cons (dim : Int) (rest : List Int) : prod (dim :: rest) = dim * prod rest := by
  rw [prod, prod, List.foldl_cons, Int.one_mul, ← Int.mul_one dim, List.foldl_assoc, Int.mul_one]

theorem prod_pos (positive : ∀ dim ∈ shape, 1 ≤ dim) : 0 < prod shape := by
  induction shape with
  | nil => decide
  | cons dim rest ih =>
    obtain ⟨here, below⟩ := List.forall_mem_cons.mp positive
    rw [prod_cons]
    exact Int.mul_pos (by omega) (ih below)

theorem Rectangular.leaves_all (rect : Rectangular P shape data) (scalar : ∀ v, P v → ∀ items, v ≠ .list items) :
    ∀ v ∈ leaves data, P v := by
  induction shape generalizing data with
  | nil =>
    rw [leaves_leaf (scalar data rect)]
    exact List.forall_mem_singleton.mpr rect
  | cons dim rest ih =>
    obtain ⟨items, rfl, _, below⟩ := rect
    intro v member
    rw [leaves, leavesOf_eq] at member
    obtain ⟨_, chunk, inside⟩ := List.mem_flatten.mp member
    obtain ⟨item, listed, rfl⟩ := List.mem_map.mp chunk
    exact ih (below item listed) v inside

theorem Rectangular.leaves_length (rect : Rectangular P shape data)
    (scalar : ∀ v, P v → ∀ items, v ≠ .list items) : ((leaves data).length : Int) = prod shape := by
  induction shape generalizing data with
  | nil =>
    rw [leaves_leaf (scalar data rect)]
    rfl
  | cons dim rest ih =>
    obtain ⟨items, rfl, sized, below⟩ := rect
    have chunks : ∀ chunk ∈ items.map leaves, chunk.length = (prod rest).toNat := by
      intro chunk member
      obtain ⟨item, listed, rfl⟩ := List.mem_map.mp member
      rw [← ih (below item listed), Int.toNat_natCast]
    rw [leaves, leavesOf_eq, flatten_length chunks, List.length_map, prod_cons, ← sized, Nat.cast_mul]
    cases items with
    | nil => simp
    | cons item _ =>
      have natural : 0 ≤ prod rest := by
        rw [← ih (below item List.mem_cons_self)]
        exact Int.natCast_nonneg _
      rw [Int.toNat_of_nonneg natural]

/-- The dimensions up to the first zero. -/
def cutAtZero : List Int → List Int
  | [] => []
  | dim :: rest => if dim = 0 then [0] else dim :: cutAtZero rest

theorem cutAtZero_nonzero (nonzero : ∀ dim ∈ shape, dim ≠ 0) : cutAtZero shape = shape := by
  induction shape with
  | nil => rfl
  | cons dim rest ih =>
    obtain ⟨here, below⟩ := List.forall_mem_cons.mp nonzero
    rw [cutAtZero, if_neg here, ih below]

/-- The first elements tell the shape, as far as there are any. -/
theorem Rectangular.inferShape_cut (rect : Rectangular P shape data)
    (scalar : ∀ v, P v → ∀ items, v ≠ .list items) : inferShape data = cutAtZero shape := by
  induction shape generalizing data with
  | nil =>
    cases data with
    | list items => exact absurd rfl (scalar _ rect items)
    | _ => rfl
  | cons dim rest ih =>
    obtain ⟨items, rfl, sized, below⟩ := rect
    cases items with
    | nil =>
      subst sized
      rfl
    | cons first others =>
      have some : dim ≠ 0 := by
        rw [List.length_cons] at sized
        omega
      rw [inferShape, inferFirst, sized, cutAtZero, if_neg some, ih (below first List.mem_cons_self)]

theorem Rectangular.inferShape_eq (rect : Rectangular P shape data) (positive : ∀ dim ∈ shape, 1 ≤ dim)
    (scalar : ∀ v, P v → ∀ items, v ≠ .list items) : inferShape data = shape := by
  rw [rect.inferShape_cut scalar, cutAtZero_nonzero fun dim member => by have := positive dim member; omega]

/-- The leaves are put back in place. -/
theorem Rectangular.reshape_leaves {dim : Int} {rest : List Int} (rect : Rectangular P (dim :: rest) data)
    (positive : ∀ d ∈ rest, 1 ≤ d) (scalar : ∀ v, P v → ∀ items, v ≠ .list items) :
    reshape (leaves data) (dim :: rest) = data := by
  induction rest generalizing dim data with
  | nil =>
    obtain ⟨items, rfl, _, below⟩ := rect
    have flat : items.map leaves = items.map fun item => [item] :=
      List.map_congr_left fun item listed => leaves_leaf (scalar item (below item listed))
    rw [leaves, leavesOf_eq, flat, reshape, ← List.flatMap_def, List.flatMap_singleton']
  | cons next rest ih =>
    obtain ⟨items, rfl, sized, below⟩ := rect
    have size := prod_pos positive
    have chunks : ∀ chunk ∈ items.map leaves, chunk.length = (prod (next :: rest)).toNat := by
      intro chunk member
      obtain ⟨item, listed, rfl⟩ := List.mem_map.mp member
      rw [← (below item listed).leaves_length scalar, Int.toNat_natCast]
    have sliced := slice_flatten chunks
    rw [List.length_map] at sliced
    rw [reshape, if_neg size.ne', ← sized, Int.toNat_natCast, leaves, leavesOf_eq]
    congr 1
    calc
      _ = ((List.range items.length).map
            (slice (items.map leaves).flatten (prod (next :: rest)).toNat)).map
          (reshape · (next :: rest)) := by rw [List.map_map]; rfl
      _ = items.map fun item => reshape (leaves item) (next :: rest) := by
        rw [sliced, List.map_map]; rfl
      _ = items := by
        conv_rhs => rw [← List.map_id items]
        exact List.map_congr_left fun item listed =>
          ih (below item listed) (fun d member => positive d (List.mem_cons_of_mem _ member))

/-! ### Elements and bytes -/

/-- An element that `struct` packs into `size` bytes and reads back. -/
structure Survives (codec : ElementCodec F) (size : Nat) (v : Value F) : Prop where
  numeric : (∃ n, v = .int n) ∨ ∃ x, v = .float x
  packed : ∃ piece, codec.pack v = .ok piece ∧ piece.length = size ∧ codec.unpack piece = v

theorem Survives.not_list {codec : ElementCodec F} {size : Nat} {v : Value F} (survives : Survives codec size v) :
    ∀ items, v ≠ .list items := by
  rintro items rfl
  rcases survives.numeric with ⟨_, impossible⟩ | ⟨_, impossible⟩ <;> cases impossible

theorem survives_int64 {n : Int} (low : -2 ^ 63 ≤ n) (high : n < 2 ^ 63) :
    Survives int64Codec 8 (.int n : Value F) := by
  refine ⟨.inl ⟨n, rfl⟩, packSigned 8 n, if_pos ⟨low, high⟩, packSigned_length 8 n, ?_⟩
  exact congrArg Value.int (unpackSigned_packSigned (by omega) (by omega))

theorem mapM_number [PyRuntime F] {codec : ElementCodec F} {size : Nat} {flat : List (Value F)}
    (survive : ∀ v ∈ flat, Survives codec size v) : flat.mapM number = .ok flat := by
  rw [Fallible.mapM_eq_ok_iff, List.forall₂_same]
  intro v member
  rcases (survive v member).numeric with ⟨n, rfl⟩ | ⟨x, rfl⟩ <;> rfl

/-- What is packed is read back. -/
theorem unpack_pack {codec : ElementCodec F} {size : Nat} {flat : List (Value F)}
    (survive : ∀ v ∈ flat, Survives codec size v) :
    ∃ raw, pack codec flat = .ok raw ∧ raw.length = flat.length * size ∧ unpack codec size flat.length raw = flat := by
  have pieces : ∃ pieces, flat.mapM codec.pack = .ok pieces ∧ (∀ piece ∈ pieces, piece.length = size) ∧
      pieces.map codec.unpack = flat := by
    induction flat with
    | nil => exact ⟨[], rfl, by simp, rfl⟩
    | cons v flat ih =>
      obtain ⟨here, rest⟩ := List.forall_mem_cons.mp survive
      obtain ⟨piece, packed, sized, read⟩ := here.packed
      obtain ⟨pieces, packed', sized', read'⟩ := ih rest
      refine ⟨piece :: pieces, ?_, List.forall_mem_cons.mpr ⟨sized, sized'⟩, ?_⟩
      · rw [List.mapM_cons, packed, packed']
        rfl
      · rw [List.map_cons, read, read']
  obtain ⟨pieces, packed, sized, read⟩ := pieces
  have count : pieces.length = flat.length := Fallible.mapM_length packed
  refine ⟨pieces.flatten, ?_, ?_, ?_⟩
  · rw [pack, packed]
    rfl
  · rw [flatten_length sized, count]
  · calc
      _ = ((List.range pieces.length).map (slice pieces.flatten size)).map codec.unpack := by
        rw [unpack, count, List.map_map]
        rfl
      _ = flat := by rw [slice_flatten sized, read]

theorem decodeData_encode (raw : List UInt8) : decodeData (String.ofList (Base64.encode raw)) = .ok raw := by
  unfold decodeData
  split
  next empty =>
    have none : Base64.encode raw = [] := by simpa using congrArg String.toList empty
    rw [Base64.encode_eq_nil_iff.mp none]
  next => rw [String.toList_ofList, Base64.decode_encode]

/-! ### Payloads -/

section

variable [PyRuntime F] {floats : FloatCodecs F} {dtype : String} {codec : ElementCodec F} {size : Nat} {cap : Int}

theorem validateShape_ok_iff : validateShape shape = .ok () ↔ ∀ dim ∈ shape, 0 ≤ dim := by
  unfold validateShape
  cases found : shape.find? (· < 0) with
  | none =>
    simp only [true_iff]
    intro dim member
    simpa using List.find?_eq_none.mp found dim member
  | some dim =>
    have negative : dim < 0 := by simpa using List.find?_some found
    have member := List.mem_of_find?_eq_some found
    constructor
    · intro failed
      cases failed
    · intro natural
      have := natural dim member
      omega

theorem lookupDtype_ok_iff {info : ElementCodec F × Nat} :
    lookupDtype floats dtype = .ok info ↔ dtypeInfo floats dtype = some info := by
  unfold lookupDtype
  cases dtypeInfo floats dtype with
  | none => simp
  | some found => simp

/-- What `validate` accepts. -/
theorem validate_ok_iff {payload : TensorPayload} : validate floats payload cap = .ok () ↔
    (∀ dim ∈ payload.shape, 0 ≤ dim) ∧ ∃ codec size raw, dtypeInfo floats payload.dtype = some (codec, size) ∧
      decodeData payload.dataB64 = .ok raw ∧ (raw.length : Int) = prod payload.shape * size ∧
      prod payload.shape * size ≤ cap := by
  constructor
  · intro valid
    obtain ⟨_, dims, ⟨codec, size⟩, known, raw, decoded, checked⟩ := by
      simpa only [validate, Fallible.bind_eq_ok_iff] using valid
    refine ⟨validateShape_ok_iff.mp dims, codec, size, raw, lookupDtype_ok_iff.mp known, decoded, ?_⟩
    by_cases sized : (raw.length : Int) = prod payload.shape * size
    · by_cases fits : cap < prod payload.shape * size
      · simp only [sized, ne_eq, not_true, if_false, if_pos fits] at checked
        cases checked
      · exact ⟨sized, not_lt.mp fits⟩
    · rw [if_pos sized] at checked
      cases checked
  · rintro ⟨dims, codec, size, raw, known, decoded, sized, fits⟩
    simp only [validate, validateShape_ok_iff.mpr dims, lookupDtype_ok_iff.mpr known, decoded, bind, Except.bind,
      sized, ne_eq, not_true, if_false, if_neg (not_lt.mpr fits)]
    rfl

/-- The payload of `prod(shape)` packed elements is valid. -/
theorem validate_encode (known : dtypeInfo floats dtype = some (codec, size)) (natural : ∀ dim ∈ shape, 0 ≤ dim)
    {raw : List UInt8} (sized : (raw.length : Int) = prod shape * size) (fits : prod shape * size ≤ cap) :
    validate floats { shape, dtype, dataB64 := String.ofList (Base64.encode raw) } cap = .ok () :=
  validate_ok_iff.mpr ⟨natural, codec, size, raw, known, decodeData_encode raw, sized, fits⟩

theorem readShape_toDict (shape : List Int) : readShape (some (.ofInts shape : Value F)) = .ok shape := by
  rw [Value.ofInts, readShape, Fallible.mapM_eq_ok_iff, List.forall₂_map_left_iff, List.forall₂_same]
  exact fun _ _ => rfl

theorem readData_toDict (dataB64 : String) :
    (((some (.str dataB64 : Value F)).filter Value.truthy).map Value.text).getD "" = dataB64 := by
  by_cases empty : dataB64 = ""
  · rw [empty]
    rfl
  · have kept : (some (.str dataB64 : Value F)).filter Value.truthy = some (.str dataB64) :=
      Option.filter_some_pos (decide_eq_true empty)
    rw [kept]
    rfl

/-- `from_dict` reads back what `to_dict` wrote. -/
theorem fromDict_toDict {payload : TensorPayload} (valid : validate floats payload cap = .ok ()) :
    fromDict floats (toDict payload) cap = .ok payload := by
  have shape : (toDict payload : Dict F).lookup "shape" = some (.ofInts payload.shape) := rfl
  have dtype : (toDict payload : Dict F).lookup "dtype" = some (.str payload.dtype) := rfl
  have data : (toDict payload : Dict F).lookup "data_b64" = some (.str payload.dataB64) := rfl
  unfold fromDict
  rw [shape, dtype, data, readShape_toDict, readData_toDict]
  change (do
    validate floats payload cap
    return payload) = _
  rw [valid]
  rfl

theorem fromJson_toJson {json : JsonCodec F} {payload : TensorPayload}
    (inverse : json.loads (json.dumps (.dict (toDict payload))) = .ok (.dict (toDict payload)))
    (valid : validate floats payload cap = .ok ()) : fromJson floats json (toJson json payload) cap = .ok payload := by
  rw [fromJson, toJson, inverse]
  exact fromDict_toDict valid

/-- A rectangular list of elements that survive packing comes back. -/
theorem round_trip {json : JsonCodec F} (known : dtypeInfo floats dtype = some (codec, size))
    (inverse : ∀ payload, fromNestedList floats data dtype cap = .ok payload →
      json.loads (json.dumps (.dict (toDict payload))) = .ok (.dict (toDict payload)))
    (rank : shape ≠ []) (positive : ∀ dim ∈ shape, 1 ≤ dim) (fits : prod shape * size ≤ cap)
    (capped : cap ≤ defaultMaxDecodedBytes) (rect : Rectangular (Survives codec size) shape data) :
    ∃ payload, fromNestedList floats data dtype cap = .ok payload ∧ payload.shape = shape ∧
      (do toNestedList floats (← fromJson floats json (toJson json payload) cap)) = .ok data := by
  have scalar : ∀ v, Survives codec size v → ∀ items, v ≠ .list items := fun v survives => survives.not_list
  have count := rect.leaves_length scalar
  have elements := prod_pos positive
  have natural : ∀ dim ∈ shape, 0 ≤ dim := fun dim member => Int.le_trans (by decide) (positive dim member)
  obtain ⟨raw, packed, length, unpacked⟩ := unpack_pack (rect.leaves_all scalar)
  have expected : (raw.length : Int) = prod shape * size := by rw [length, Nat.cast_mul, count]
  have built : fromNestedList floats data dtype cap =
      .ok { shape, dtype, dataB64 := String.ofList (Base64.encode raw) } := by
    simp only [fromNestedList, lookupDtype, known, flatten_eq, mapM_number (rect.leaves_all scalar), packed,
      rect.inferShape_eq positive scalar, validate_encode known natural expected fits, bind, Except.bind]
    rfl
  refine ⟨_, built, rfl, ?_⟩
  rw [fromJson_toJson (inverse _ built) (validate_encode known natural expected fits)]
  have restored : reshape (unpack codec size (prod shape).toNat raw) shape = data := by
    rw [← count, Int.toNat_natCast, unpacked]
    obtain ⟨dim, rest, rfl⟩ := List.exists_cons_of_ne_nil rank
    exact rect.reshape_leaves (fun d member => positive d (List.mem_cons_of_mem _ member)) scalar
  change toNestedList floats _ = _
  simp only [toNestedList, validate_encode known natural expected (fits.trans capped), lookupDtype, known,
    decodeData_encode, if_neg elements.ne', restored, bind, Except.bind]
  rfl

/-- An integer of 64 bits. -/
def Int64Entry (v : Value F) : Prop := ∃ n, v = .int n ∧ -2 ^ 63 ≤ n ∧ n < 2 ^ 63

/-- The wire carries every rectangular list of 64-bit integers, and every one of
floats that `struct` reads back as it packed them. -/
theorem tensor_wire_round_trip (floats : FloatCodecs F) (json : JsonCodec F) {shape : List Int} {data : Value F}
    {dtype : String} {entry : Value F → Prop}
    (entries : dtype = "int64" ∧ entry = Int64Entry ∨ dtype = "float32" ∧ entry = Survives floats.single 4)
    (inverse : ∀ payload, fromNestedList floats data dtype defaultMaxDecodedBytes = .ok payload →
      json.loads (json.dumps (.dict (toDict payload))) = .ok (.dict (toDict payload)))
    (rank : shape ≠ []) (positive : ∀ dim ∈ shape, 1 ≤ dim) (fits : prod shape * 8 ≤ 256 * 1024 * 1024)
    (rect : Rectangular entry shape data) :
    ∃ payload, fromNestedList floats data dtype defaultMaxDecodedBytes = .ok payload ∧ payload.shape = shape ∧
      (do toNestedList floats (← fromJson floats json (toJson json payload) defaultMaxDecodedBytes)) = .ok data := by
  rcases entries with ⟨rfl, rfl⟩ | ⟨rfl, rfl⟩
  · have known : dtypeInfo floats "int64" = some (int64Codec, 8) := rfl
    refine round_trip known inverse rank positive fits (le_refl _) (rect.mono ?_)
    rintro v ⟨n, rfl, low, high⟩
    exact survives_int64 low high
  · have known : dtypeInfo floats "float32" = some (floats.single, 4) := rfl
    have elements := prod_pos positive
    have smaller : prod shape * (4 : Nat) ≤ defaultMaxDecodedBytes := by
      unfold defaultMaxDecodedBytes
      push_cast
      omega
    exact round_trip known inverse rank positive smaller (le_refl _) rect

end

theorem rectangular_ofInts {numbers : List Int} (bounded : ∀ n ∈ numbers, -2 ^ 63 ≤ n ∧ n < 2 ^ 63) :
    Rectangular Int64Entry [(numbers.length : Int)] (.ofInts numbers : Value F) := by
  refine ⟨numbers.map .int, rfl, by rw [List.length_map], fun item member => ?_⟩
  obtain ⟨n, listed, rfl⟩ := List.mem_map.mp member
  exact ⟨n, rfl, bounded n listed⟩

/-! ### A square of integers and a row of floats -/

/-- The floats 1.0 and 2.0. -/
def twoFloats : FloatCodecs Int where
  single :=
    { pack := fun
        | .float 1 => .ok [0, 0, 0x80, 0x3f]
        | .float 2 => .ok [0, 0, 0, 0x40]
        | _ => .error "float too large to pack with f format"
      unpack := fun bytes => .float (if bytes = [0, 0, 0x80, 0x3f] then 1 else 2) }
  half :=
    { pack := fun _ => .error "float too large to pack with e format"
      unpack := fun _ => .float 0 }

/-- JSON for one payload. -/
def payloadJson (payload : TensorPayload) (text : String) : JsonCodec Int where
  dumps _ := text
  loads s := if s = text then .ok (.dict (toDict payload)) else .error "Expecting value: line 1 column 1 (char 0)"

def squareData : Value Int := .list [.ofInts [1, -2], .ofInts [3, 4]]

def squarePayload : TensorPayload :=
  { shape := [2, 2], dtype := "int64", dataB64 := "AQAAAAAAAAD+/////////wMAAAAAAAAABAAAAAAAAAA=" }

def squareJson : JsonCodec Int := payloadJson squarePayload
  "\x7b\"shape\": [2, 2], \"dtype\": \"int64\", \"data_b64\": \"AQAAAAAAAAD+/////////wMAAAAAAAAABAAAAAAAAAA=\"\x7d"

def rowData : Value Int := .list [.float 1, .float 2]

def rowPayload : TensorPayload := { shape := [2], dtype := "float32", dataB64 := "AACAPwAAAEA=" }

def rowJson : JsonCodec Int := payloadJson rowPayload
  "\x7b\"shape\": [2], \"dtype\": \"float32\", \"data_b64\": \"AACAPwAAAEA=\"\x7d"

theorem tensor_wire_round_trip_small :
    (∃ payload, fromNestedList twoFloats squareData "int64" defaultMaxDecodedBytes = .ok payload ∧
      payload.shape = [2, 2] ∧
      (do toNestedList twoFloats (← fromJson twoFloats squareJson (toJson squareJson payload)
        defaultMaxDecodedBytes)) = .ok squareData) ∧
    ∃ payload, fromNestedList twoFloats rowData "float32" defaultMaxDecodedBytes = .ok payload ∧
      payload.shape = [2] ∧
      (do toNestedList twoFloats (← fromJson twoFloats rowJson (toJson rowJson payload)
        defaultMaxDecodedBytes)) = .ok rowData := by
  constructor
  · refine tensor_wire_round_trip twoFloats squareJson (.inl ⟨rfl, rfl⟩) ?_ (by decide) (by decide)
      (by decide) ?_
    · have built : fromNestedList twoFloats squareData "int64" defaultMaxDecodedBytes = .ok squarePayload := by
        simp only [fromNestedList, flatten_eq]
        decide +kernel
      intro payload same
      cases built.symm.trans same
      rfl
    · refine ⟨_, rfl, rfl, List.forall_mem_cons.mpr ⟨?_, List.forall_mem_singleton.mpr ?_⟩⟩
      · exact rectangular_ofInts (by decide)
      · exact rectangular_ofInts (by decide)
  · refine tensor_wire_round_trip twoFloats rowJson (.inr ⟨rfl, rfl⟩) ?_ (by decide) (by decide)
      (by decide) ?_
    · have built : fromNestedList twoFloats rowData "float32" defaultMaxDecodedBytes = .ok rowPayload := by
        simp only [fromNestedList, flatten_eq]
        decide +kernel
      intro payload same
      cases built.symm.trans same
      rfl
    · refine ⟨_, rfl, rfl, List.forall_mem_cons.mpr ⟨?_, List.forall_mem_singleton.mpr ?_⟩⟩
      · exact ⟨.inr ⟨1, rfl⟩, _, rfl, rfl, rfl⟩
      · exact ⟨.inr ⟨2, rfl⟩, _, rfl, rfl, rfl⟩

end ComputeCloudNode.TensorFormat
