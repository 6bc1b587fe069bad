import ComputeCloudNode.Lib.Base64
import ComputeCloudNode.Lib.Bytes
import ComputeCloudNode.Lib.Fallible
import ComputeCloudNode.Values

/-! `tensor_format.py`: a tensor on the wire is its shape, its dtype and the base64
of its elements in row-major order. What `struct` makes of a float is a parameter,
as are `json.dumps` and `json.loads`.

Left out: tuples in place of lists, which JSON does not have. -/
namespace ComputeCloudNode.TensorFormat
open Bytes

variable {F : Type}

/-- How `struct` writes and reads one element. -/
structure ElementCodec (F : Type) where
  pack : Value F → Except String (List UInt8)
  unpack : List UInt8 → Value F

/-- The formats `f` and `e` of `struct`. -/
structure FloatCodecs (F : Type) where
  single : ElementCodec F
  half : ElementCodec F

/-- The format `<q` of `struct`. -/
def int64Codec : ElementCodec F where
  pack
    | .int n =>
      if -2 ^ 63 ≤ n ∧ n < 2 ^ 63 then .ok (packSigned 8 n)
      else .error "'q' format requires -9223372036854775808 <= number <= 9223372036854775807"
    | _ => .error "required argument is not an integer"
  unpack bytes := .int (unpackSigned bytes)

structure JsonCodec (F : Type) where
  dumps : Value F → String
  loads : String → Except String (Value F)

/-- `_DTYPE_INFO`: the codec of an element and its size in bytes. -/
def dtypeInfo (floats : FloatCodecs F) (dtype : String) : Option (ElementCodec F × Nat) :=
  if dtype = "float32" then some (floats.single, 4)
  else if dtype = "float16" then some (floats.half, 2)
  else if dtype = "int64" then some (int64Codec, 8)
  else none

/-- 256 MB. -/
def defaultMaxDecodedBytes : Int := 256 * 1024 * 1024

/-- `_prod`. -/
def prod (shape : List Int) : Int := shape.foldl (· * ·) 1

/-! ### Nested lists -/

mutual

/-- The number of lists and leaves in a value. -/
def nodes : Value F → Nat
  | .list items => nodesOf items + 1
  | _ => 1

def nodesOf : List (Value F) → Nat
  | [] => 0
  | v :: rest => nodes v + nodesOf rest

end

theorem nodesOf_append (left right : List (Value F)) : nodesOf (left ++ right) = nodesOf left + nodesOf right := by
  induction left with
  | nil => simp [nodesOf]
  | cons v left ih => rw [List.cons_append, nodesOf, nodesOf, ih, Nat.add_assoc]

theorem nodes_pos (v : Value F) : 0 < nodes v := by
  cases v <;> simp [nodes]

/-- What `_flatten` appends for an item that is no list. -/
def number [PyRuntime F] : Value F → Except String (Value F)
  | .bool b => .ok (.int (if b then 1 else 0))
  | .int n => .ok (.int n)
  | .float x => .ok (.float x)
  | item => .error s!"from_nested_list: non-numeric element {item.repr} (type {item.typeName})"

/-- The loop of `_flatten`. The end of the source's stack is the head of this one. -/
def flattenLoop [PyRuntime F] : List (Value F) → List (Value F) → Except String (List (Value F))
  | [], out => .ok out
  | .list items :: stack, out => flattenLoop (items ++ stack) out
  | item :: stack, out =>
    match number item with
    | .error text => .error text
    | .ok leaf => flattenLoop stack (out ++ [leaf])
termination_by stack => nodesOf stack
decreasing_by
  · rw [nodesOf_append, nodesOf, nodes]
    omega
  · rw [nodesOf]
    have := nodes_pos item
    omega

/-- `_flatten`. -/
def flatten [PyRuntime F] (nested : Value F) : Except String (List (Value F)) := flattenLoop [nested] []

mutual

/-- `_infer_shape`. -/
def inferShape : Value F → List Int
  | .list items => items.length :: inferFirst items
  | _ => []

def inferFirst : List (Value F) → List Int
  | [] => []
  | first :: _ => inferShape first

end

/-- `_reshape`. The dimensions have been checked not to be negative. -/
def reshape (flat : List (Value F)) : List Int → Value F
  | [] => flat.headD (.list [])
  | [_] => .list flat
  | dim :: next :: rest =>
    let chunkSize := prod (next :: rest)
    if chunkSize = 0 then .list (List.replicate dim.toNat (.list []))
    else .list ((List.range dim.toNat).map fun i => reshape (slice flat chunkSize.toNat i) (next :: rest))

/-! ### Payloads -/

structure TensorPayload where
  shape : List Int := []
  dtype : String := "float32"
  dataB64 : String := ""
  deriving DecidableEq

/-- `str` of a shape, which is a tuple. -/
def shapeText : List Int → String
  | [] => "()"
  | [dim] => s!"({dim},)"
  | dims => "(" ++ ", ".intercalate (dims.map toString) ++ ")"

/-- `_validate_shape`, once the dimensions are integers. -/
def validateShape (shape : List Int) : Except String Unit :=
  match shape.find? (· < 0) with
  | some dim => .error s!"shape dimensions must be non-negative, got {dim}"
  | none => .ok ()

section

variable [PyRuntime F] (floats : FloatCodecs F)

def lookupDtype (dtype : String) : Except String (ElementCodec F × Nat) :=
  match dtypeInfo floats dtype with
  | some info => .ok info
  | none => .error s!"unknown dtype {Value.reprStr F dtype}; supported: ['float16', 'float32', 'int64']"

/-- `base64.b64decode(data_b64) if data_b64 else b""`. -/
def decodeData (dataB64 : String) : Except String (List UInt8) :=
  if dataB64 = "" then .ok [] else Base64.decode dataB64.toList

/-- `TensorPayload.validate`. -/
def validate (payload : TensorPayload) (maxDecodedBytes : Int) : Except String Unit := do
  validateShape payload.shape
  let (_, elemSize) ← lookupDtype floats payload.dtype
  let expectedBytes := prod payload.shape * elemSize
  let raw ← decodeData payload.dataB64
  if (raw.length : Int) ≠ expectedBytes then
    throw (s!"byte length mismatch: data_b64 decodes to {raw.length} bytes but shape {shapeText payload.shape} " ++
      s!"x dtype {payload.dtype} (size {elemSize}) requires {expectedBytes} bytes")
  if maxDecodedBytes < expectedBytes then
    throw s!"decoded tensor is {expectedBytes} bytes, exceeding the cap of {maxDecodedBytes} bytes"

/-- `to_dict`. -/
def toDict (payload : TensorPayload) : Dict F :=
  [("shape", .ofInts payload.shape), ("dtype", .str payload.dtype), ("data_b64", .str payload.dataB64)]

/-- The dimensions that `from_dict` reads. -/
def readShape : Option (Value F) → Except String (List Int)
  | none => .ok []
  | some (.list dims) => dims.mapM Value.toInt
  | some v => .error s!"shape must be a list or tuple, got {v.typeName}"

/-- `from_dict`. -/
def fromDict (data : Dict F) (maxDecodedBytes : Int) : Except String TensorPayload := do
  let shape ← readShape (data.lookup "shape")
  let dtype := ((data.lookup "dtype").map Value.text).getD "float32"
  let dataB64 := (((data.lookup "data_b64").filter Value.truthy).map Value.text).getD ""
  let payload := { shape, dtype, dataB64 }
  validate floats payload maxDecodedBytes
  return payload

/-- `struct.pack` of the elements, one after the other. -/
def pack (codec : ElementCodec F) (flat : List (Value F)) : Except String (List UInt8) := do
  let pieces ← flat.mapM codec.pack
  return pieces.flatten

/-- `struct.unpack`. `validate` has checked the number of bytes. -/
def unpack (codec : ElementCodec F) (elemSize count : Nat) (raw : List UInt8) : List (Value F) :=
  (List.range count).map fun i => codec.unpack (slice raw elemSize i)

/-- `from_nested_list`. -/
def fromNestedList (data : Value F) (dtype : String) (maxDecodedBytes : Int) : Except String TensorPayload := do
  let (codec, _) ← lookupDtype floats dtype
  let shape := inferShape data
  let flat ← flatten data
  let packed ← pack codec flat
  let payload := { shape, dtype, dataB64 := String.ofList (Base64.encode packed) }
  validate floats payload maxDecodedBytes
  return payload

/-- `to_nested_list`. -/
def toNestedList (payload : TensorPayload) : Except String (Value F) := do
  validate floats payload defaultMaxDecodedBytes
  let (codec, elemSize) ← lookupDtype floats payload.dtype
  let nElems := prod payload.shape
  let raw ← decodeData payload.dataB64
  if nElems = 0 then
    if payload.shape = [] then return .null
    return reshape [] payload.shape
  return reshape (unpack codec elemSize nElems.toNat raw) payload.shape

/-- `to_json`. -/
def toJson (json : JsonCodec F) (payload : TensorPayload) : String := json.dumps (.dict (toDict payload))

/-- `from_json`. -/
def fromJson (json : JsonCodec F) (s : String) (maxDecodedBytes : Int) : Except String TensorPayload := do
  match ← json.loads s with
  | .dict data => fromDict floats data maxDecodedBytes
  | v => throw s!"'{v.typeName}' object has no attribute 'get'"

end

end ComputeCloudNode.TensorFormat
