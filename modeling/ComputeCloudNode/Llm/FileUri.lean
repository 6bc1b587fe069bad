import ComputeCloudNode.Lib.Fallible
import ComputeCloudNode.Lib.PosixPaths
import ComputeCloudNode.Values

/-! `llm/uri.py::parse_file_uri`: the local directory that a `file://` URI names, on a
POSIX system. What is returned is the decoded path itself in normal form: the forms for
drive letters give paths that are not absolute there, so they are refused. -/
namespace ComputeCloudNode.FileUri
open Fallible PosixPaths Uri

/-- The fields of `urlparse` that are read. -/
structure ParsedUrl where
  scheme : List Char
  netloc : List Char
  path : List Char

/-- What `parse_file_uri` calls. -/
structure UrlLibrary where
  urlparse : List Char → Except String ParsedUrl
  unquote : List Char → List Char
  /-- `str.isalpha` of one character. -/
  isalpha : Char → Bool
  slash_not_alpha : isalpha '/' = false

variable (F : Type) [PyRuntime F] (library : UrlLibrary)

/-- `repr`. -/
def shown (cs : List Char) : String := Value.reprStr F (String.ofList cs)

/-- `netloc[0].isalpha()` and `netloc[1] == ":"`. -/
def isDrive : List Char → Bool
  | c :: ':' :: _ => library.isalpha c
  | _ => false

/-- The path with the host before it, if that looks like a drive. -/
def localPath (parsed : ParsedUrl) : Except String Path :=
  if parsed.netloc ≠ [] ∧ parsed.netloc ≠ "localhost".toList then
    if isDrive library parsed.netloc then .ok (parsed.netloc ++ library.unquote parsed.path)
    else .error s!"file URI with non-local host {shown F parsed.netloc} is not supported"
  else .ok (library.unquote parsed.path)

/-- The leading slash before a drive is cut off. -/
def stripDriveSlash (path : Path) : Path :=
  match path with
  | '/' :: rest => if isDrive library rest then rest else path
  | _ => path

/-- `path.replace("\\", "/")`. -/
def backslashToSlash (c : Char) : Char := if c = '\\' then '/' else c

/-- `parse_file_uri`. -/
def parseFileUri (uri : String) : Except String String := do
  let s := strip uri.toList
  if !startsWith s "file://" then
    throw s!"file URI must start with 'file://', got {shown F s}"
  let parsed ← library.urlparse s
  if parsed.scheme ≠ "file".toList then
    throw s!"file URI scheme must be 'file', got {shown F parsed.scheme}"
  let path ← localPath F library parsed
  if path = [] then
    throw s!"file URI has no path: {shown F s}"
  let path := stripDriveSlash library path
  if ¬ Absolute path then
    throw s!"file URI path must be absolute, got {shown F path}"
  if ['.', '.'] ∈ (path.map backslashToSlash).splitOn '/' then
    throw s!"file URI path must not contain '..' segments, got {shown F path}"
  return String.ofList (normpath path)

variable {F library} {uri p : String} {parsed : ParsedUrl} {path : Path}

theorem isDrive_not_absolute (drive : isDrive library path) : ¬ Absolute path := by
  intro root
  unfold isDrive at drive
  split at drive
  next c rest =>
    cases root
    rw [library.slash_not_alpha] at drive
    cases drive
  next => cases drive

theorem stripDriveSlash_absolute (root : Absolute (stripDriveSlash library path)) :
    stripDriveSlash library path = path := by
  unfold stripDriveSlash at root ⊢
  split at root
  next rest =>
    split at root
    next drive => exact absurd root (isDrive_not_absolute drive)
    next other => exact if_neg other
  next => rfl

theorem isDrive_append (drive : isDrive library path) (more : Path) : isDrive library (path ++ more) := by
  unfold isDrive at drive
  split at drive
  next => exact drive
  next => cases drive

/-- A path that is absolute is the decoded path of the URI. -/
theorem localPath_absolute (given : localPath F library parsed = .ok path) (root : Absolute path) :
    path = library.unquote parsed.path := by
  unfold localPath at given
  split at given
  next =>
    split at given
    next drive =>
      cases given
      exact absurd root (isDrive_not_absolute (isDrive_append drive _))
    next => cases given
  next =>
    cases given
    rfl

/-- A component that is `..` stays one where backslashes separate as well. -/
theorem dots_notMem (without : ['.', '.'] ∉ (path.map backslashToSlash).splitOn '/') : ['.', '.'] ∉ names path := by
  intro member
  rw [names, List.mem_filter] at member
  rw [splitOn_map rfl, List.mem_flatMap] at without
  exact without ⟨_, member.1, by decide⟩

/-- What is returned is the normal form of the decoded path, which is absolute and does
not go up. -/
theorem parseFileUri_ok (read : parseFileUri F library uri = .ok p) :
    ∃ parsed, library.urlparse (strip uri.toList) = .ok parsed ∧ Absolute (library.unquote parsed.path) ∧
      ['.', '.'] ∉ names (library.unquote parsed.path) ∧ p = String.ofList (normpath (library.unquote parsed.path)) := by
  unfold parseFileUri at read
  dsimp only at read
  split at read
  next => cases read
  obtain ⟨parsed, given, read⟩ := bind_eq_ok_iff.mp read
  split at read
  next => cases read
  obtain ⟨path, located, read⟩ := bind_eq_ok_iff.mp read
  split at read
  next => cases read
  split at read
  next => cases read
  next root =>
  split at read
  next => cases read
  next without =>
  rw [not_not] at root
  have same := stripDriveSlash_absolute root
  rw [same] at root without read
  obtain rfl := localPath_absolute located root
  exact ⟨parsed, given, root, dots_notMem without, (pure_eq_ok_iff.mp read).symm⟩

variable (F library) in
/-- A returned path is absolute and normal, and names what the decoded path names: its
root and, component by component, its components but those that are `.`. -/
theorem parse_file_uri_confined (uri p : String) (read : parseFileUri F library uri = .ok p) :
    ∃ parsed, library.urlparse (strip uri.toList) = .ok parsed ∧
      Absolute p.toList ∧ p.toList = rooted (rootSlashes p.toList) (names p.toList) ∧
      (∀ part ∈ names p.toList, part ≠ [] ∧ part ≠ ['.'] ∧ part ≠ ['.', '.']) ∧
      rootSlashes p.toList = rootSlashes (library.unquote parsed.path) ∧
      names p.toList = (names (library.unquote parsed.path)).filter (· ≠ ['.']) := by
  obtain ⟨parsed, given, root, up, rfl⟩ := parseFileUri_ok read
  refine ⟨parsed, given, ?_⟩
  have each : ∀ part ∈ (names (library.unquote parsed.path)).filter (· ≠ ['.']), '/' ∉ part ∧ part ≠ [] := by
    intro part member
    obtain ⟨component, some_⟩ := List.mem_filter.mp (List.mem_filter.mp member).1
    exact ⟨slash_notMem_splitOn component, of_decide_eq_true some_⟩
  have roots := rootSlashes_rooted (rootSlashes_cases root) each
  have parts : names (rooted (rootSlashes (library.unquote parsed.path)) _) = _ := names_rooted each
  rw [String.toList_ofList, normpath_absolute root up]
  refine ⟨?_, ?_, ?_, roots, parts⟩
  · rw [absolute_iff, roots]
    exact absolute_iff.mp root
  · rw [roots, parts]
  · rw [parts]
    intro part member
    refine ⟨(each part member).2, of_decide_eq_true (List.mem_filter.mp member).2, ?_⟩
    rintro rfl
    exact up (List.mem_filter.mp member).1

/-! ### URIs in ASCII -/

def hexDigit (c : Char) : Option Nat :=
  if '0' ≤ c ∧ c ≤ '9' then some (c.toNat - 48)
  else if 'a' ≤ c ∧ c ≤ 'f' then some (c.toNat - 87)
  else if 'A' ≤ c ∧ c ≤ 'F' then some (c.toNat - 55)
  else none

/-- `unquote` of a text whose escapes are all ASCII. -/
def unquoteAscii : List Char → List Char
  | '%' :: high :: low :: rest =>
    match hexDigit high, hexDigit low with
    | some h, some l => Char.ofNat (16 * h + l) :: unquoteAscii rest
    | _, _ => '%' :: unquoteAscii (high :: low :: rest)
  | c :: rest => c :: unquoteAscii rest
  | [] => []

/-- `urlparse` of a file URI without a query and a fragment. -/
def asciiUrls : UrlLibrary where
  urlparse s :=
    match "file://".toList.isPrefixOf? s with
    | some rest => .ok ⟨"file".toList, rest.takeWhile (· ≠ '/'), rest.dropWhile (· ≠ '/')⟩
    | none => .ok ⟨[], [], s⟩
  unquote := unquoteAscii
  isalpha := Char.isAlpha
  slash_not_alpha := rfl

/-- Blanks around the URI, an empty component and an escaped `.`. -/
theorem parse_file_uri_confined_dot :
    parseFileUri Int asciiUrls " file:///tmp//a/%2e/b " = .ok "/tmp/a/b" ∧
      ∃ parsed, asciiUrls.urlparse (strip " file:///tmp//a/%2e/b ".toList) = .ok parsed ∧
        names "/tmp/a/b".toList = (names (asciiUrls.unquote parsed.path)).filter (· ≠ ['.']) := by
  have read : parseFileUri Int asciiUrls " file:///tmp//a/%2e/b " = .ok "/tmp/a/b" := by
    decide +kernel
  obtain ⟨parsed, given, _, _, _, _, same⟩ := parse_file_uri_confined Int asciiUrls _ _ read
  exact ⟨read, parsed, given, same⟩

end ComputeCloudNode.FileUri
