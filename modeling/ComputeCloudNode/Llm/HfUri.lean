import Mathlib.Data.List.Infix
import ComputeCloudNode.Values

/-! `hf_uri.py`: the model and the revision that a URI of the Hub names. -/
namespace ComputeCloudNode.HfUri
open Uri

/-- `[A-Za-z0-9._\-]`. -/
def isNameChar (c : Char) : Bool := c.isAlphanum || c = '.' || c = '_' || c = '-'

/-- The same with a slash. -/
def isModelChar (c : Char) : Bool := isNameChar c || c = '/'

/-- A lazy `*`: as few characters as the rest of the expression allows. -/
def lazyRun {α : Type} (allowed : Char → Bool) (next : List Char → Option α) : List Char → Option (List Char × α)
  | [] => (next []).map fun found => ([], found)
  | c :: rest =>
    match next (c :: rest) with
    | some found => some ([], found)
    | none => if allowed c then (lazyRun allowed next rest).map fun (run, found) => (c :: run, found) else none

/-- `$`, which also matches before a final newline. -/
def atEnd (cs : List Char) : Bool := cs = [] || cs = ['\n']

/-- `@(?P<revision>[A-Za-z0-9._\-]+)$`. -/
def revisionToEnd : List Char → Option (List Char)
  | '@' :: cs =>
    let revision := cs.takeWhile isNameChar
    if !revision.isEmpty && atEnd (cs.dropWhile isNameChar) then some revision else none
  | _ => none

/-- `hf://`, the group `model_id` and what follows it. -/
def modelThen {α : Type} (next : List Char → Option α) (s : List Char) : Option (List Char × α) :=
  match "hf://".toList.isPrefixOf? s with
  | some (c :: rest) =>
    if c.isAlphanum then (lazyRun isModelChar next rest).map fun (run, found) => (c :: run, found) else none
  | _ => none

/-- A match of either expression. -/
def matchUri (s : List Char) : Option (List Char × List Char) :=
  match modelThen revisionToEnd s with
  | some found => some found
  | none => (modelThen (fun cs => if atEnd cs then some () else none) s).map fun (modelId, _) => (modelId, "main".toList)

/-- `text in s`. -/
def contains (s : List Char) (text : String) : Bool := s.tails.any fun rest => startsWith rest text

theorem contains_iff {s : List Char} (text : String) : contains s text ↔ text.toList <:+: s := by
  simp only [contains, startsWith, List.any_eq_true, List.mem_tails, List.isPrefixOf_iff_prefix,
    List.infix_iff_prefix_suffix]
  exact exists_congr fun _ => and_comm

variable (F : Type) [PyRuntime F]

/-- `parse_hf_uri`. -/
def parseHfUri (uri : String) : Except String (String × String) :=
  let s := strip uri.toList
  let shown := Value.reprStr F uri
  if !startsWith s "hf://" then .error s!"hf URI must start with 'hf://', got {shown}"
  else if contains s ".." then .error s!"hf URI must not contain '..': {shown}"
  else if s.any fun c => c = '\x00' || c = '\n' || c = '\r' then .error s!"hf URI must not contain control chars: {shown}"
  else if (s.drop "hf://".length).isEmpty then .error s!"hf URI has empty model_id: {shown}"
  else
    match matchUri s with
    | none => .error s!"malformed hf URI: {shown} — expected 'hf://org/name@revision'"
    | some (modelId, revision) =>
      let named := Value.reprStr F (String.ofList modelId)
      if 2 < (modelId.splitOn '/').length then
        .error s!"hf URI model_id must be 'org/name' or 'name', got {named}"
      else if (modelId.splitOn '/').any List.isEmpty then .error s!"hf URI model_id has empty segment: {named}"
      else if startsWith modelId "/" then .error s!"hf URI model_id must not start with '/': {named}"
      else if contains revision "/" then
        .error s!"hf URI revision must not contain '/': {Value.reprStr F (String.ofList revision)}"
      else .ok (String.ofList modelId, String.ofList revision)

example : parseHfUri Int " hf://org/model@v2" = .ok ("org/model", "v2") := by decide +kernel

/-- `build_hf_uri`. -/
def buildHfUri (modelId revision : String) : Except String String := do
  let uri := s!"hf://{modelId}@{revision}"
  let _ ← parseHfUri F uri
  return uri

end ComputeCloudNode.HfUri
