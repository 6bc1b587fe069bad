import Mathlib.Data.List.DropRight

/-! `llm/uri.py`: which texts count as the URI of a weights source. -/
namespace ComputeCloudNode.Uri

/-- The characters that `str.strip` removes. -/
def isSpace (c : Char) : Bool :=
  (9 ≤ c.toNat ∧ c.toNat ≤ 13) ∨ (28 ≤ c.toNat ∧ c.toNat ≤ 32) ∨ (0x2000 ≤ c.toNat ∧ c.toNat ≤ 0x200a) ∨
    c.toNat ∈ [0x85, 0xa0, 0x1680, 0x2028, 0x2029, 0x202f, 0x205f, 0x3000]

/-- `s.strip()`. -/
def strip (cs : List Char) : List Char := (cs.dropWhile isSpace).rdropWhile isSpace

/-- `s.startswith(lead)`. -/
def startsWith (cs : List Char) (lead : String) : Bool := lead.toList.isPrefixOf cs

/-- `is_llm_weights_uri`. -/
def isLlmWeightsUri (uri : String) : Bool :=
  let s := strip uri.toList
  startsWith s "hf://" || startsWith s "file://"

example : isLlmWeightsUri " file:///tmp/weights" := by decide

end ComputeCloudNode.Uri
