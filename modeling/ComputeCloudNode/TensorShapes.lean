import ComputeCloudNode.TensorRoundTrip

/-! What the shape of a payload says about its nested list. `_infer_shape` looks at
first elements only, and the one cross-check is the number of bytes: a ragged list
whose leaves are as many as the product of that shape passes for a rectangular
one. On the way back `_reshape` ends at the first list whose chunks are empty,
whatever dimensions are still to come before the zero. -/
namespace ComputeCloudNode.TensorFormat
open Bytes

variable {F : Type} {P : Value F → Prop} {data : Value F} {shape : List Int}

/-! ### Nested lists of integers -/

def IsInt (v : Value F) : Prop := ∃ n, v = .int n

theorem IsInt.not_list {v : Value F} (integer : IsInt v) : ∀ items, v ≠ .list items := by
  rintro items rfl
  obtain ⟨n, impossible⟩ := integer
  cases impossible

/-- Dimensions behind a zero say nothing. -/
theorem Rectangular.cut (rect : Rectangular P shape data) : Rectangular P (cutAtZero shape) data := by
  induction shape generalizing data with
  | nil => exact rect
  | cons dim rest ih =>
    obtain ⟨items, listed, sized, below⟩ := rect
    by_cases zero : dim = 0
    · have empty : items = [] := List.length_eq_zero_iff.mp (Int.ofNat_eq_zero.mp (sized.trans zero))
      rw [cutAtZero, if_pos zero]
      exact ⟨items, listed, sized.trans zero, by simp [empty]⟩
    · rw [cutAtZero, if_neg zero]
      exact ⟨items, listed, sized, fun item member => ih (below item member)⟩

/-- If a list is rectangular at all, then with the inferred shape. -/
theorem Rectangular.inferred (rect : Rectangular P shape data)
    (scalar : ∀ v, P v → ∀ items, v ≠ .list items) : Rectangular P (inferShape data) data := by
  rw [rect.inferShape_cut scalar]
  exact rect.cut

theorem inferShape_leaf (leaf : ∀ items, data ≠ .list items) : inferShape data = [] := by
  cases data with
  | list items => exact absurd rfl (leaf items)
  | _ => rfl

theorem inferShape_natural : ∀ data : Value F, ∀ dim ∈ inferShape data, 0 ≤ dim
  | .list [], dim, member => by
    rw [inferShape, inferFirst, List.mem_singleton] at member
    simp [member]
  | .list (first :: others), dim, member => by
    rw [inferShape, inferFirst, List.mem_cons] at member
    rcases member with rfl | below
    · exact Int.natCast_nonneg _
    · exact inferShape_natural first dim below
  | .null, _, member | .bool _, _, member | .int _, _, member | .float _, _, member | .str _, _, member
  | .dict _, _, member => by
    rw [inferShape_leaf (by simp)] at member
    cases member

theorem survives_int64Entry {v : Value F} (entry : Int64Entry v) : Survives int64Codec 8 v := by
  obtain ⟨n, rfl, low, high⟩ := entry
  exact survives_int64 low high

/-- `struct` packs a list exactly when each element is an integer of 64 bits. -/
theorem pack_int64_ok_iff {flat : List (Value F)} :
    (∃ raw, pack int64Codec flat = .ok raw) ↔ ∀ leaf ∈ flat, Int64Entry leaf := by
  constructor
  · rintro ⟨raw, packed⟩ leaf member
    obtain ⟨pieces, each, _⟩ := Fallible.bind_eq_ok_iff.mp packed
    obtain ⟨piece, _, accepted⟩ := Fallible.mapM_mem_ok each member
    cases leaf with
    | int n =>
      by_cases fits : -2 ^ 63 ≤ n ∧ n < 2 ^ 63
      · exact ⟨n, rfl, fits⟩
      · simp only [int64Codec, if_neg fits] at accepted
        cases accepted
    | _ => cases accepted
  · intro fits
    obtain ⟨raw, packed, _⟩ := unpack_pack fun leaf member => survives_int64Entry (fits leaf member)
    exact ⟨raw, packed⟩

section

variable [PyRuntime F] {floats : FloatCodecs F} {cap : Int}

theorem mapM_number_integers {flat : List (Value F)} (integers : ∀ leaf ∈ flat, IsInt leaf) :
    flat.mapM number = .ok flat := by
  rw [Fallible.mapM_eq_ok_iff, List.forall₂_same]
  intro leaf member
  obtain ⟨n, rfl⟩ := integers leaf member
  rfl

/-- When a list of integers becomes a payload: its integers have 64 bits, there are
as many as the first elements promise, and they are within the cap. -/
structure Packable (data : Value F) (cap : Int) : Prop where
  entries : ∀ leaf ∈ leaves data, Int64Entry leaf
  counted : ((leaves data).length : Int) = prod (inferShape data)
  fits : prod (inferShape data) * 8 ≤ cap

theorem fromNestedList_ok_iff (integers : ∀ leaf ∈ leaves data, IsInt leaf) :
    (∃ payload, fromNestedList floats data "int64" cap = .ok payload) ↔ Packable data cap := by
  have known : dtypeInfo floats "int64" = some (int64Codec, 8) := rfl
  constructor
  · rintro ⟨payload, built⟩
    obtain ⟨⟨codec, size⟩, found, flat, flattened, raw, packed, _, valid, _⟩ := by
      simpa only [fromNestedList, Fallible.bind_eq_ok_iff] using built
    cases known.symm.trans (lookupDtype_ok_iff.mp found)
    rw [flatten_eq, mapM_number_integers integers] at flattened
    cases flattened
    have entries := pack_int64_ok_iff.mp ⟨raw, packed⟩
    obtain ⟨_, codec, size, read, same, decoded, sized, fits⟩ := validate_ok_iff.mp valid
    cases known.symm.trans same
    rw [decodeData_encode] at decoded
    cases decoded
    obtain ⟨other, packed', length, _⟩ :=
      unpack_pack fun leaf member => survives_int64Entry (entries leaf member)
    cases packed.symm.trans packed'
    refine ⟨entries, ?_, fits⟩
    rw [length] at sized
    push_cast at sized
    omega
  · rintro ⟨entries, counted, fits⟩
    obtain ⟨raw, packed, length, _⟩ :=
      unpack_pack fun leaf member => survives_int64Entry (entries leaf member)
    have sized : (raw.length : Int) = prod (inferShape data) * (8 : Nat) := by
      rw [length, Nat.cast_mul, counted]
    refine ⟨{ shape := inferShape data, dtype := "int64", dataB64 := String.ofList (Base64.encode raw) }, ?_⟩
    simp only [fromNestedList, lookupDtype, known, flatten_eq, mapM_number_integers integers, packed,
      validate_encode known (inferShape_natural data) sized fits, bind, Except.bind]
    rfl

theorem fromNestedList_shape {dtype : String} {payload : TensorPayload}
    (built : fromNestedList floats data dtype cap = .ok payload) : payload.shape = inferShape data := by
  obtain ⟨_, _, _, _, _, _, _, _, returned⟩ := by
    simpa only [fromNestedList, Fallible.bind_eq_ok_iff] using built
  cases returned
  rfl

/-- Ragged lists are refused, and what is accepted has its own shape, unless the
leaves of a ragged list can be packed and are as many as the first elements promise. -/
theorem ragged_list_rejected_iff (floats : FloatCodecs F) (cap : Int) {items : List (Value F)}
    (integers : ∀ leaf ∈ leaves (.list items), IsInt leaf) :
    ((∀ payload, fromNestedList floats (.list items) "int64" cap = .ok payload →
        Rectangular IsInt payload.shape (.list items)) ∧
      ((¬ ∃ shape, Rectangular IsInt shape (.list items)) →
        ∃ text, fromNestedList floats (.list items) "int64" cap = .error text)) ↔
      (∃ shape, Rectangular IsInt shape (.list items)) ∨
        ((leaves (.list items)).length : Int) ≠ prod (inferShape (.list items)) ∨
        (∃ leaf ∈ leaves (.list items), ¬ Int64Entry leaf) ∨ cap < prod (inferShape (.list items)) * 8 := by
  have accepted : (∃ payload, fromNestedList floats (.list items) "int64" cap = .ok payload) ↔
      Packable (.list items) cap := fromNestedList_ok_iff integers
  constructor
  · rintro ⟨shaped, _⟩
    by_cases entries : ∀ leaf ∈ leaves (.list items), Int64Entry leaf
    · by_cases counted : ((leaves (.list items)).length : Int) = prod (inferShape (.list items))
      · by_cases fits : prod (inferShape (.list items)) * 8 ≤ cap
        · obtain ⟨payload, built⟩ := accepted.mpr ⟨entries, counted, fits⟩
          exact .inl ⟨_, shaped payload built⟩
        · exact .inr (.inr (.inr (not_le.mp fits)))
      · exact .inr (.inl counted)
    · push Not at entries
      exact .inr (.inr (.inl entries))
  · intro condition
    have shaped : ∀ payload, fromNestedList floats (.list items) "int64" cap = .ok payload →
        ∃ shape, Rectangular IsInt shape (.list items) := by
      intro payload built
      obtain ⟨entries, counted, fits⟩ := accepted.mp ⟨payload, built⟩
      rcases condition with rect | miscounted | ⟨leaf, member, outside⟩ | large
      · exact rect
      · exact absurd counted miscounted
      · exact absurd (entries leaf member) outside
      · exact absurd fits (not_le.mpr large)
    constructor
    · intro payload built
      obtain ⟨shape, rect⟩ := shaped payload built
      rw [fromNestedList_shape built]
      exact rect.inferred fun v integer => integer.not_list
    · intro ragged
      cases built : fromNestedList floats (.list items) "int64" cap with
      | error text => exact ⟨text, rfl⟩
      | ok payload => exact absurd (shaped payload built) ragged

end

theorem ragged_list_rejected_square :
    (∀ payload, fromNestedList twoFloats squareData "int64" defaultMaxDecodedBytes = .ok payload →
        Rectangular IsInt payload.shape squareData) ∧
      ((¬ ∃ shape, Rectangular IsInt shape squareData) →
        ∃ text, fromNestedList twoFloats squareData "int64" defaultMaxDecodedBytes = .error text) := by
  have rows : ∀ leaf ∈ leaves squareData, IsInt leaf := by
    simp [squareData, leaves, leavesOf, Value.ofInts, IsInt]
  have rect : Rectangular IsInt [2, 2] squareData := by
    simp [squareData, Value.ofInts, Rectangular, IsInt]
  exact (ragged_list_rejected_iff twoFloats defaultMaxDecodedBytes rows).mpr (.inl ⟨[2, 2], rect⟩)

/-- Rows of two, one and three integers. -/
def raggedData : Value Int := .list [.ofInts [1, 2], .ofInts [3], .ofInts [4, 5, 6]]

theorem ragged_list_accepted :
    (∃ payload, fromNestedList twoFloats raggedData "int64" defaultMaxDecodedBytes = .ok payload ∧
      payload.shape = [3, 2]) ∧ ¬ ∃ shape, Rectangular IsInt shape raggedData := by
  constructor
  · refine ⟨{ shape := [3, 2], dtype := "int64", dataB64 :=
      "AQAAAAAAAAACAAAAAAAAAAMAAAAAAAAABAAAAAAAAAAFAAAAAAAAAAYAAAAAAAAA" }, ?_, rfl⟩
    simp only [fromNestedList, flatten_eq]
    decide +kernel
  · rintro ⟨shape, rect⟩
    have inferred := rect.inferred fun v integer => integer.not_list
    simp [raggedData, Value.ofInts, inferShape, inferFirst, Rectangular] at inferred

/-! ### Zero dimensions -/

/-- The chunks of a list have the length of the lists below. -/
theorem reshape_rectangular {dim : Int} {rest : List Int} {flat : List (Value F)}
    (positive : ∀ d ∈ dim :: rest, 1 ≤ d) (elements : ∀ v ∈ flat, P v)
    (sized : (flat.length : Int) = prod (dim :: rest)) :
    Rectangular P (dim :: rest) (reshape flat (dim :: rest)) := by
  induction rest generalizing dim flat with
  | nil =>
    refine ⟨flat, rfl, ?_, elements⟩
    rw [sized, prod_cons]
    exact Int.mul_one dim
  | cons next rest ih =>
    obtain ⟨here, below⟩ := List.forall_mem_cons.mp positive
    have chunk := prod_pos below
    rw [reshape, if_neg chunk.ne']
    refine ⟨_, rfl, by rw [List.length_map, List.length_range]; omega, ?_⟩
    intro item member
    obtain ⟨i, inside, rfl⟩ := List.mem_map.mp member
    rw [List.mem_range] at inside
    have whole : dim.toNat * (prod (next :: rest)).toNat ≤ flat.length := by
      zify
      rw [Int.toNat_of_nonneg (by omega), Int.toNat_of_nonneg chunk.le, ← prod_cons, sized]
    apply ih below (fun v listed => elements v (mem_of_mem_slice listed))
    rw [slice_length inside whole, Int.toNat_of_nonneg chunk.le]

theorem prod_zero (zero : 0 ∈ shape) : prod shape = 0 := by
  induction shape with
  | nil => cases zero
  | cons dim rest ih =>
    rw [prod_cons]
    rcases List.mem_cons.mp zero with here | below
    · rw [← here, Int.zero_mul]
    · rw [ih below, Int.mul_zero]

/-- What the elements are read as is no list. -/
structure Scalars (floats : FloatCodecs F) : Prop where
  single : ∀ bytes items, floats.single.unpack bytes ≠ .list items
  half : ∀ bytes items, floats.half.unpack bytes ≠ .list items

/-- The value has the lists that the dimensions up to the first zero ask for, and
elements below them if there is no zero. -/
structure Shaped (shape : List Int) (v : Value F) : Prop where
  lists : Rectangular (fun leaf => ∀ items, leaf ≠ .list items) (cutAtZero shape) v
  inferred : inferShape v = cutAtZero shape

theorem shaped_of_rectangular {v : Value F}
    (rect : Rectangular (fun leaf => ∀ items, leaf ≠ .list items) shape v) : Shaped shape v :=
  ⟨rect.cut, rect.inferShape_cut fun _ leaf => leaf⟩

theorem reshape_first_zero (flat : List (Value F)) (rest : List Int) (empty : flat = []) :
    Shaped (0 :: rest) (reshape flat (0 :: rest)) := by
  subst empty
  have none : reshape ([] : List (Value F)) (0 :: rest) = .list [] := by
    cases rest with
    | nil => rfl
    | cons next rest =>
      by_cases chunk : prod (next :: rest) = 0
      · rw [reshape, if_pos chunk]
        rfl
      · rw [reshape, if_neg chunk]
        rfl
  rw [none]
  exact ⟨⟨[], rfl, rfl, by simp⟩, rfl⟩

/-- An empty tensor is a list of empty lists, whatever its other dimensions. -/
theorem reshape_later_zero {dim next : Int} {rest : List Int} (zero : 0 ∈ next :: rest) (flat : List (Value F)) :
    reshape flat (dim :: next :: rest) = .list (List.replicate dim.toNat (.list [])) := by
  rw [reshape, if_pos (prod_zero zero)]

theorem shaped_empty_lists_iff {dim next : Int} {rest : List Int} (some : 1 ≤ dim) :
    Shaped (dim :: next :: rest) (.list (List.replicate dim.toNat (.list [])) : Value F) ↔ next = 0 := by
  obtain ⟨count, counted⟩ : ∃ count, dim.toNat = count + 1 := ⟨dim.toNat - 1, by omega⟩
  have nonzero : dim ≠ 0 := by omega
  constructor
  · rintro ⟨lists, _⟩
    rw [cutAtZero, if_neg nonzero] at lists
    obtain ⟨items, same, _, below⟩ := lists
    cases same
    have first := below (.list []) (by rw [counted]; exact List.mem_cons_self)
    by_cases zero : next = 0
    · exact zero
    · rw [cutAtZero, if_neg zero] at first
      obtain ⟨items, same, sized, _⟩ := first
      cases same
      exact sized.symm
  · rintro rfl
    have rect : Rectangular (fun leaf : Value F => ∀ items, leaf ≠ .list items) [dim, 0]
        (.list (List.replicate dim.toNat (.list []))) := by
      refine ⟨_, rfl, by rw [List.length_replicate]; omega, fun item member => ?_⟩
      rw [List.eq_of_mem_replicate member]
      exact ⟨[], rfl, rfl, by simp⟩
    have cut : cutAtZero (dim :: 0 :: rest) = [dim, 0] := by
      rw [cutAtZero, if_neg nonzero]
      rfl
    have short : cutAtZero [dim, 0] = [dim, 0] := by
      rw [cutAtZero, if_neg nonzero]
      rfl
    obtain ⟨lists, inferred⟩ := shaped_of_rectangular rect
    rw [short] at lists inferred
    exact ⟨by rwa [cut], by rwa [cut]⟩

/-- Reshaping fails only for a zero behind two dimensions that are none. -/
theorem reshape_shaped_iff {flat : List (Value F)} (natural : ∀ dim ∈ shape, 0 ≤ dim) (rank : shape ≠ [])
    (elements : ∀ v ∈ flat, ∀ items, v ≠ .list items) (sized : (flat.length : Int) = prod shape) :
    Shaped shape (reshape flat shape) ↔ (0 ∈ shape → 0 ∈ shape.take 2) := by
  obtain ⟨dim, rest, rfl⟩ := List.exists_cons_of_ne_nil rank
  by_cases zero : 0 ∈ dim :: rest
  · have empty : flat = [] := by
      rw [prod_zero zero] at sized
      exact List.length_eq_zero_iff.mp (Int.ofNat_eq_zero.mp sized)
    by_cases first : dim = 0
    · subst first
      exact ⟨fun _ _ => by simp, fun _ => reshape_first_zero flat rest empty⟩
    · have later : 0 ∈ rest := (List.mem_cons.mp zero).resolve_left (Ne.symm first)
      have here := natural dim List.mem_cons_self
      cases rest with
      | nil => cases later
      | cons next rest =>
        rw [reshape_later_zero later, shaped_empty_lists_iff (by omega)]
        simp [zero, Ne.symm first, eq_comm]
  · have positive : ∀ d ∈ dim :: rest, 1 ≤ d := by
      intro d member
      have := natural d member
      have : d ≠ 0 := fun same => zero (same ▸ member)
      omega
    have rect := reshape_rectangular positive elements sized
    exact ⟨fun _ inside => absurd inside zero, fun _ => shaped_of_rectangular rect⟩

theorem prod_natural (natural : ∀ dim ∈ shape, 0 ≤ dim) : 0 ≤ prod shape := by
  induction shape with
  | nil => decide
  | cons dim rest ih =>
    obtain ⟨here, below⟩ := List.forall_mem_cons.mp natural
    rw [prod_cons]
    exact Int.mul_nonneg here (ih below)

section

variable [PyRuntime F] {floats : FloatCodecs F} {payload : TensorPayload}

/-- A valid payload of rank one or more is unpacked and reshaped; there are no
elements to unpack if a dimension is zero. -/
theorem toNestedList_eq (valid : validate floats payload defaultMaxDecodedBytes = .ok ()) (rank : payload.shape ≠ []) :
    ∃ codec size raw, dtypeInfo floats payload.dtype = some (codec, size) ∧
      toNestedList floats payload =
        .ok (reshape (unpack codec size (prod payload.shape).toNat raw) payload.shape) := by
  obtain ⟨natural, codec, size, raw, known, decoded, sized, fits⟩ := validate_ok_iff.mp valid
  refine ⟨codec, size, raw, known, ?_⟩
  simp only [toNestedList, valid, lookupDtype_ok_iff.mpr known, decoded, bind, Except.bind]
  by_cases empty : prod payload.shape = 0
  · rw [if_pos empty, if_neg rank, empty]
    rfl
  · rw [if_neg empty]
    rfl

omit [PyRuntime F] in
theorem dtypeInfo_scalars (scalars : Scalars floats) {dtype : String} {codec : ElementCodec F} {size : Nat}
    (known : dtypeInfo floats dtype = some (codec, size)) : ∀ bytes items, codec.unpack bytes ≠ .list items := by
  unfold dtypeInfo at known
  by_cases single : dtype = "float32"
  · rw [if_pos single] at known
    cases known
    exact scalars.single
  · by_cases half : dtype = "float16"
    · rw [if_neg single, if_pos half] at known
      cases known
      exact scalars.half
    · by_cases int64 : dtype = "int64"
      · rw [if_neg single, if_neg half, if_pos int64] at known
        cases known
        intro bytes items same
        cases same
      · rw [if_neg single, if_neg half, if_neg int64] at known
        cases known

/-- A valid payload of rank one or more is decoded to its declared shape exactly
if the first zero dimension, if any, is one of the first two. -/
theorem decoded_shape_iff (scalars : Scalars floats)
    (valid : validate floats payload defaultMaxDecodedBytes = .ok ()) (rank : payload.shape ≠ []) :
    (∃ v, toNestedList floats payload = .ok v ∧ Shaped payload.shape v) ↔
      (0 ∈ payload.shape → 0 ∈ payload.shape.take 2) := by
  obtain ⟨codec, size, raw, known, decoded⟩ := toNestedList_eq valid rank
  have natural := (validate_ok_iff.mp valid).1
  rw [decoded]
  have elements : ∀ v ∈ unpack codec size (prod payload.shape).toNat raw, ∀ items, v ≠ .list items := by
    intro v member
    obtain ⟨i, _, rfl⟩ := List.mem_map.mp member
    exact dtypeInfo_scalars scalars known _
  have sized : ((unpack codec size (prod payload.shape).toNat raw).length : Int) = prod payload.shape := by
    rw [unpack, List.length_map, List.length_range, Int.toNat_of_nonneg (prod_natural natural)]
  rw [← reshape_shaped_iff natural rank elements sized]
  constructor
  · rintro ⟨v, same, shaped⟩
    cases same
    exact shaped
  · exact fun shaped => ⟨_, rfl, shaped⟩

end

theorem decoded_shape_empty_rows : ∃ v, toNestedList twoFloats { shape := [2, 0], dtype := "int64" } = .ok v ∧
    Shaped [2, 0] v := by
  have scalars : Scalars twoFloats := ⟨fun _ _ => by simp [twoFloats], fun _ _ => by simp [twoFloats]⟩
  have valid : validate twoFloats { shape := [2, 0], dtype := "int64" } defaultMaxDecodedBytes = .ok () := by
    decide +kernel
  exact (decoded_shape_iff scalars valid (by decide)).mpr (by decide)

theorem decoded_shape_lost :
    validate twoFloats { shape := [2, 3, 0], dtype := "int64" } defaultMaxDecodedBytes = .ok () ∧
      ¬ ∃ v, toNestedList twoFloats { shape := [2, 3, 0], dtype := "int64" } = .ok v ∧ Shaped [2, 3, 0] v := by
  constructor
  · decide +kernel
  · rintro ⟨v, decoded, shaped⟩
    have same : toNestedList twoFloats { shape := [2, 3, 0], dtype := "int64" } =
        .ok (.list [.list [], .list []]) := rfl
    cases same.symm.trans decoded
    have wrong := shaped.inferred
    revert wrong
    decide

end ComputeCloudNode.TensorFormat
