import ComputeCloudNode.TensorShapes

/-! What is accepted as a payload, and what that says. Every way of making a payload
takes a cap of its own, but a payload is decoded under the default one, so a cap above
it lets payloads in that cannot be decoded. And `from_dict` converts the dimensions
with `int` before anything looks at their types: what it accepts need not be what it
was given. -/
namespace ComputeCloudNode.TensorFormat
open Bytes

variable {F : Type} [PyRuntime F] {floats : FloatCodecs F} {cap : Int} {payload : TensorPayload}

/-- The data of a payload has the size that its shape and dtype ask for. -/
def Sized (floats : FloatCodecs F) (payload : TensorPayload) (bytes : Int) : Prop :=
  (∀ dim ∈ payload.shape, 0 ≤ dim) ∧ ∃ codec size raw, dtypeInfo floats payload.dtype = some (codec, size) ∧
    decodeData payload.dataB64 = .ok raw ∧ (raw.length : Int) = bytes ∧ prod payload.shape * size = bytes

theorem validate_iff_sized :
    validate floats payload cap = .ok () ↔ ∃ bytes, Sized floats payload bytes ∧ bytes ≤ cap := by
  rw [validate_ok_iff]
  constructor
  · rintro ⟨natural, codec, size, raw, known, decoded, sized, fits⟩
    exact ⟨_, ⟨natural, codec, size, raw, known, decoded, sized, rfl⟩, fits⟩
  · rintro ⟨_, ⟨natural, codec, size, raw, known, decoded, sized, rfl⟩, fits⟩
    exact ⟨natural, codec, size, raw, known, decoded, sized, fits⟩

omit [PyRuntime F] in
theorem Sized.unique {bytes other : Int} (sized : Sized floats payload bytes) (again : Sized floats payload other) :
    bytes = other := by
  obtain ⟨_, _, _, raw, _, decoded, length, _⟩ := sized
  obtain ⟨_, _, _, raw', _, decoded', length', _⟩ := again
  cases decoded.symm.trans decoded'
  exact length.symm.trans length'

/-! ### Decoding what was accepted -/

/-- Decoding fails only where the default cap does. -/
theorem toNestedList_ok_iff :
    (∃ v, toNestedList floats payload = .ok v) ↔ validate floats payload defaultMaxDecodedBytes = .ok () := by
  constructor
  · rintro ⟨v, decoded⟩
    obtain ⟨_, valid, _⟩ := Fallible.bind_eq_ok_iff.mp decoded
    exact valid
  · intro valid
    obtain ⟨_, codec, size, raw, known, decoded, _⟩ := validate_ok_iff.mp valid
    simp only [toNestedList, valid, lookupDtype_ok_iff.mpr known, decoded, bind, Except.bind]
    by_cases empty : prod payload.shape = 0
    · rw [if_pos empty]
      by_cases scalar : payload.shape = []
      · rw [if_pos scalar]
        exact ⟨_, rfl⟩
      · rw [if_neg scalar]
        exact ⟨_, rfl⟩
    · rw [if_neg empty]
      exact ⟨_, rfl⟩

/-- More bytes than the default cap allows, but no more than this one does. -/
def BetweenCaps (floats : FloatCodecs F) (cap : Int) (payload : TensorPayload) : Prop :=
  ∃ bytes, Sized floats payload bytes ∧ defaultMaxDecodedBytes < bytes ∧ bytes ≤ cap

theorem valid_decodes_iff (valid : validate floats payload cap = .ok ()) :
    (∃ v, toNestedList floats payload = .ok v) ↔ ¬ BetweenCaps floats cap payload := by
  obtain ⟨bytes, sized, fits⟩ := validate_iff_sized.mp valid
  rw [toNestedList_ok_iff, validate_iff_sized]
  constructor
  · rintro ⟨_, again, small⟩ ⟨_, large, above, _⟩
    rw [again.unique large] at small
    exact absurd small (not_le.mpr above)
  · intro outside
    exact ⟨bytes, sized, not_lt.mp fun above => outside ⟨bytes, sized, above, fits⟩⟩

/-- What is accepted can be decoded. -/
def Decodes (floats : FloatCodecs F) (made : Except String TensorPayload) : Prop :=
  ∀ payload, made = .ok payload → ∃ v, toNestedList floats payload = .ok v

/-- The payload that the fields of a dict spell out, not validated yet. -/
def Spells (data : Dict F) (payload : TensorPayload) : Prop :=
  readShape (data.lookup "shape") = .ok payload.shape ∧
    payload.dtype = ((data.lookup "dtype").map Value.text).getD "float32" ∧
    payload.dataB64 = (((data.lookup "data_b64").filter Value.truthy).map Value.text).getD ""

/-- The payload of the packed leaves of a nested list, not validated yet. -/
def Packs (floats : FloatCodecs F) (data : Value F) (dtype : String) (payload : TensorPayload) : Prop :=
  ∃ codec size flat raw, dtypeInfo floats dtype = some (codec, size) ∧ flatten data = .ok flat ∧
    pack codec flat = .ok raw ∧
    payload = { shape := inferShape data, dtype, dataB64 := String.ofList (Base64.encode raw) }

theorem fromDict_ok_iff {data : Dict F} : fromDict floats data cap = .ok payload ↔
    Spells data payload ∧ validate floats payload cap = .ok () := by
  simp only [fromDict, Fallible.bind_eq_ok_iff]
  constructor
  · rintro ⟨shape, read, _, valid, returned⟩
    cases returned
    exact ⟨⟨read, rfl, rfl⟩, valid⟩
  · rintro ⟨⟨read, dtype, dataB64⟩, valid⟩
    obtain ⟨shape, _, _⟩ := payload
    subst dtype dataB64
    exact ⟨shape, read, (), valid, rfl⟩

theorem fromNestedList_ok_iff_packs {data : Value F} {dtype : String} : fromNestedList floats data dtype cap = .ok payload ↔
    Packs floats data dtype payload ∧ validate floats payload cap = .ok () := by
  simp only [fromNestedList, Fallible.bind_eq_ok_iff]
  constructor
  · rintro ⟨⟨codec, size⟩, known, flat, flattened, raw, packed, _, valid, returned⟩
    cases returned
    exact ⟨⟨codec, size, flat, raw, lookupDtype_ok_iff.mp known, flattened, packed, rfl⟩, valid⟩
  · rintro ⟨⟨codec, size, flat, raw, known, flattened, packed, rfl⟩, valid⟩
    exact ⟨(codec, size), lookupDtype_ok_iff.mpr known, flat, flattened, raw, packed, (), valid, rfl⟩

/-- The dict that a text holds. -/
theorem fromJson_ok_iff {json : JsonCodec F} {s : String} : fromJson floats json s cap = .ok payload ↔
    ∃ data, json.loads s = .ok (.dict data) ∧ fromDict floats data cap = .ok payload := by
  simp only [fromJson, Fallible.bind_eq_ok_iff]
  constructor
  · rintro ⟨v, loaded, made⟩
    cases v with
    | dict data => exact ⟨data, loaded, made⟩
    | _ => cases made
  · rintro ⟨data, loaded, made⟩
    exact ⟨.dict data, loaded, made⟩

/-- What is accepted can be decoded, whichever way it was made, exactly if its size is
not one that the cap allows and the default cap does not. -/
theorem accepted_decodes_iff (floats : FloatCodecs F) (json : JsonCodec F) (cap : Int) :
    (∀ data, Decodes floats (fromDict floats data cap) ↔ ∀ payload, Spells data payload → ¬ BetweenCaps floats cap payload) ∧
      (∀ data dtype, Decodes floats (fromNestedList floats data dtype cap) ↔
        ∀ payload, Packs floats data dtype payload → ¬ BetweenCaps floats cap payload) ∧
      ∀ s, Decodes floats (fromJson floats json s cap) ↔
        ∀ data payload, json.loads s = .ok (.dict data) → Spells data payload → ¬ BetweenCaps floats cap payload := by
  have decodes : ∀ payload, ¬ BetweenCaps floats cap payload ↔
      (validate floats payload cap = .ok () → ∃ v, toNestedList floats payload = .ok v) := by
    intro payload
    constructor
    · exact fun outside valid => (valid_decodes_iff valid).mpr outside
    · rintro decoded ⟨bytes, sized, above, fits⟩
      have valid : validate floats payload cap = .ok () := validate_iff_sized.mpr ⟨bytes, sized, fits⟩
      exact (valid_decodes_iff valid).mp (decoded valid) ⟨bytes, sized, above, fits⟩
  simp only [Decodes, decodes, fromDict_ok_iff, fromNestedList_ok_iff_packs, fromJson_ok_iff]
  refine ⟨fun data => ?_, fun data dtype => ?_, fun s => ?_⟩
  · exact ⟨fun held payload spelled valid => held payload ⟨spelled, valid⟩,
      fun held payload ⟨spelled, valid⟩ => held payload spelled valid⟩
  · exact ⟨fun held payload packed valid => held payload ⟨packed, valid⟩,
      fun held payload ⟨packed, valid⟩ => held payload packed valid⟩
  · exact ⟨fun held data payload loaded spelled valid => held payload ⟨data, loaded, spelled, valid⟩,
      fun held payload ⟨data, loaded, spelled, valid⟩ => held data payload loaded spelled valid⟩

/-- Zeros, eight bytes more than the default cap allows. -/
def largePayload : TensorPayload where
  shape := [33554433]
  dtype := "int64"
  dataB64 := String.ofList (Base64.encode (List.replicate 268435464 0))

/-- Within a cap of one gigabyte the dict of such a payload is accepted, and the payload
cannot be decoded. -/
theorem large_payload_not_decoded : ¬ Decodes twoFloats (fromDict twoFloats (toDict largePayload) (2 ^ 30)) := by
  have sized : Sized twoFloats largePayload 268435464 := by
    refine ⟨by decide, int64Codec, 8, List.replicate 268435464 0, rfl, decodeData_encode _, ?_, by decide⟩
    rw [List.length_replicate]
    rfl
  have between : BetweenCaps twoFloats (2 ^ 30) largePayload := ⟨_, sized, by decide, by decide⟩
  have valid : validate twoFloats largePayload (2 ^ 30) = .ok () := validate_iff_sized.mpr ⟨_, sized, by decide⟩
  intro decodes
  exact (valid_decodes_iff valid).mp (decodes largePayload (fromDict_toDict valid)) between

/-! ### Dimensions that are converted -/

/-- A dict with these three fields, in any order. -/
def WireDict (dims : List (Value F)) (dtype dataB64 : String) (data : Dict F) : Prop :=
  data.Perm [("shape", .list dims), ("dtype", .str dtype), ("data_b64", .str dataB64)]

section

variable {dims : List (Value F)} {dtype dataB64 : String} {data : Dict F}

omit [PyRuntime F] in
theorem WireDict.lookup (wire : WireDict dims dtype dataB64 data) (key : String) : data.lookup key =
    List.lookup key [("shape", .list dims), ("dtype", .str dtype), ("data_b64", .str dataB64)] := by
  apply Dicts.lookup_perm wire
  rw [(wire.map Prod.fst).nodup_iff]
  simp

theorem spells_wireDict_iff (wire : WireDict dims dtype dataB64 data) : Spells data payload ↔
    dims.mapM Value.toInt = .ok payload.shape ∧ payload.dtype = dtype ∧ payload.dataB64 = dataB64 := by
  have shape : data.lookup "shape" = some (.list dims) := wire.lookup "shape"
  have named : data.lookup "dtype" = some (.str dtype) := wire.lookup "dtype"
  have text : data.lookup "data_b64" = some (.str dataB64) := wire.lookup "data_b64"
  rw [Spells, shape, named, text, readData_toDict]
  rfl

/-- Integers are what `int` leaves as they are. -/
theorem mapM_toInt_ints {shape : List Int} (read : dims.mapM Value.toInt = .ok shape)
    (integers : ∀ dim ∈ dims, ∃ n, dim = .int n) : dims = shape.map .int := by
  induction Fallible.mapM_eq_ok_iff.mp read with
  | nil => rfl
  | @cons dim n dims shape here below ih =>
    obtain ⟨⟨m, rfl⟩, rest⟩ := List.forall_mem_cons.mp integers
    cases here
    rw [List.map_cons, ← ih (Fallible.mapM_eq_ok_iff.mpr below) rest]

/-- The dict is taken as it is: its dimensions are natural numbers, and it is what
`to_dict` writes. -/
structure Unchanged (dims : List (Value F)) (data : Dict F) (payload : TensorPayload) : Prop where
  natural : ∀ dim ∈ dims, ∃ n, dim = .int n ∧ 0 ≤ n
  same : data.Perm (toDict payload)

/-- The payload once the dimensions are converted is too large or does not fit its data. -/
def Refused (floats : FloatCodecs F) (cap : Int) (dims : List (Value F)) (dtype dataB64 : String) : Prop :=
  ∀ shape bytes, dims.mapM Value.toInt = .ok shape → Sized floats { shape, dtype, dataB64 } bytes → cap < bytes

/-- A dict is accepted only as it is exactly if all its dimensions are integers, or it is
not accepted once they are converted. -/
theorem wire_dict_unchanged_iff (floats : FloatCodecs F) (cap : Int) (wire : WireDict dims dtype dataB64 data) :
    (∀ payload, fromDict floats data cap = .ok payload → Unchanged dims data payload) ↔
      (∀ dim ∈ dims, ∃ n, dim = .int n) ∨ Refused floats cap dims dtype dataB64 := by
  have accepted : ∀ payload, fromDict floats data cap = .ok payload ↔
      (dims.mapM Value.toInt = .ok payload.shape ∧ payload.dtype = dtype ∧ payload.dataB64 = dataB64) ∧
        ∃ bytes, Sized floats payload bytes ∧ bytes ≤ cap := by
    intro payload
    rw [fromDict_ok_iff, spells_wireDict_iff wire, validate_iff_sized]
  constructor
  · intro unchanged
    by_contra other
    obtain ⟨converted, refused⟩ := not_or.mp other
    apply refused
    intro shape bytes read sized
    by_contra fits
    have made := (accepted { shape, dtype, dataB64 }).mpr ⟨⟨read, rfl, rfl⟩, bytes, sized, not_lt.mp fits⟩
    apply converted
    intro dim member
    obtain ⟨n, integer, _⟩ := (unchanged _ made).natural dim member
    exact ⟨n, integer⟩
  · rintro (integers | refused) payload made
    · obtain ⟨⟨read, rfl, rfl⟩, _, ⟨natural, _⟩, _⟩ := (accepted payload).mp made
      obtain rfl := mapM_toInt_ints read integers
      refine ⟨fun dim member => ?_, wire⟩
      obtain ⟨n, listed, rfl⟩ := List.mem_map.mp member
      exact ⟨n, rfl, natural n listed⟩
    · obtain ⟨⟨read, rfl, rfl⟩, bytes, sized, fits⟩ := (accepted payload).mp made
      exact absurd (refused payload.shape bytes read sized) (not_lt.mpr fits)

end

/-- One integer, with the fields in another order. -/
def rowDict : Dict Int := [("dtype", .str "int64"), ("shape", .list [.int 1]), ("data_b64", .str "AQAAAAAAAAA=")]

theorem wire_dict_unchanged_row :
    WireDict [.int 1] "int64" "AQAAAAAAAAA=" rowDict ∧
      ∀ payload, fromDict twoFloats rowDict defaultMaxDecodedBytes = .ok payload → Unchanged [.int 1] rowDict payload := by
  have wire : WireDict [.int 1] "int64" "AQAAAAAAAAA=" rowDict := List.Perm.swap _ _ _
  exact ⟨wire, (wire_dict_unchanged_iff twoFloats defaultMaxDecodedBytes wire).mpr (.inl (by simp))⟩

/-- A dict whose only dimension is the text `1`. -/
def textualDict : Dict Int := [("shape", .list [.str "1"]), ("dtype", .str "int64"), ("data_b64", .str "AQAAAAAAAAA=")]

theorem textual_dimension_accepted :
    WireDict [.str "1"] "int64" "AQAAAAAAAAA=" textualDict ∧
      ¬ ∀ payload, fromDict twoFloats textualDict defaultMaxDecodedBytes = .ok payload →
        Unchanged [.str "1"] textualDict payload := by
  have wire : WireDict [.str "1"] "int64" "AQAAAAAAAAA=" textualDict := List.Perm.refl _
  have read : [(.str "1" : Value Int)].mapM Value.toInt = .ok [1] := by decide +kernel
  have decoded : decodeData "AQAAAAAAAAA=" = .ok [1, 0, 0, 0, 0, 0, 0, 0] := by decide +kernel
  have sized : Sized twoFloats { shape := [1], dtype := "int64", dataB64 := "AQAAAAAAAAA=" } 8 :=
    ⟨by decide, int64Codec, 8, _, rfl, decoded, rfl, rfl⟩
  have made : fromDict twoFloats textualDict defaultMaxDecodedBytes =
      .ok { shape := [1], dtype := "int64", dataB64 := "AQAAAAAAAAA=" } :=
    fromDict_ok_iff.mpr ⟨(spells_wireDict_iff wire).mpr ⟨read, rfl, rfl⟩, validate_iff_sized.mpr ⟨8, sized, by decide⟩⟩
  refine ⟨wire, fun unchanged => ?_⟩
  obtain ⟨n, impossible, _⟩ := (unchanged _ made).natural (.str "1") (by simp)
  cases impossible

end ComputeCloudNode.TensorFormat
