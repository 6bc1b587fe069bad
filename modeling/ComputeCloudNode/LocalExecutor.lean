import ComputeCloudNode.Lib.Fallible
import ComputeCloudNode.TaskLoop
import ComputeCloudNode.Values

/-! `LocalProcessExecutor`: it runs the command of a task as a process of the node. How
the process ends and which executables there are is up to the host.

Left out: a command that is a tuple, which JSON does not have. -/
namespace ComputeCloudNode.LocalExecutor
open TaskLoop

variable {F : Type}

/-- `float`, as far as it depends on the type of floats. -/
class PyFloat (F : Type) where
  /-- `float(n)`, unless it overflows. -/
  ofInt : Int → Option F
  /-- `float(s)`, unless it is refused. -/
  parse : String → Option F

instance : PyFloat Int where
  ofInt n := if n.natAbs < 2 ^ 1024 then some n else none
  parse s := (Value.parseInt Int s).toOption

/-- `CommandResult`. -/
structure CommandResult where
  returnCode : Int
  stdout : String
  stderr : String

/-- `LocalProcessExecutor`. The timeout is 300.0 unless the user sets it. -/
structure LocalProcessExecutor (F : Type) where
  defaultTimeoutSeconds : F
  shell : Bool := true
  workingDirectory : Option String := none

/-- The first argument of `subprocess.run`. -/
inductive Arguments
  | shell (command : String)
  | exec (executable : String) (arguments : List String)
  deriving DecidableEq

structure Request (F : Type) where
  arguments : Arguments
  timeout : F
  workingDirectory : Option String

/-- What `TimeoutExpired` holds of a stream: bytes on POSIX, text on Windows. -/
inductive Captured
  | bytes (bytes : List UInt8)
  | text (s : String)

/-- How `subprocess.run` ends. -/
inductive Ending
  /-- The command finished. Its output is an error when it is no text, which raises. -/
  | finished (returnCode : Int) (output : Except String (String × String))
  | timedOut (stdout stderr : Option Captured)
  /-- Any other exception of `run`, such as a directory that is missing. -/
  | failed (text : String)

/-- The host of a node, during one call. -/
structure Host (F : Type) where
  which : String → Option String
  run : Request F → Ending
  /-- The text of the error that `decode` raises. -/
  undecodable : List UInt8 → String

/-! ### Built-in functions -/

/-- `s.split()`: the words, the first of them at hand. -/
def splitWords : List Char → List Char → List (List Char)
  | word, [] => if word.isEmpty then [] else [word]
  | word, c :: rest =>
    if Uri.isSpace c then (if word.isEmpty then [] else [word]) ++ splitWords [] rest else splitWords (word ++ [c]) rest

/-- A byte within quotes. -/
def reprByte (quote : Char) (byte : UInt8) : List Char :=
  let c := Char.ofNat byte.toNat
  if c = quote ∨ c = '\\' then ['\\', c]
  else if c = '\t' then ['\\', 't']
  else if c = '\n' then ['\\', 'n']
  else if c = '\r' then ['\\', 'r']
  else if ' ' ≤ c ∧ c.toNat < 0x7f then [c]
  else '\\' :: 'x' :: Value.hexDigits 2 byte.toNat

/-- `str` of bytes. -/
def reprBytes (bytes : List UInt8) : String :=
  let isQuote (quote : Char) (byte : UInt8) := byte.toNat = quote.toNat
  let quote := if bytes.any (isQuote '\'') ∧ ¬ bytes.any (isQuote '"') then '"' else '\''
  String.ofList ('b' :: quote :: bytes.flatMap (reprByte quote) ++ [quote])

/-- `bytes.decode()`. -/
def decode (host : Host F) (bytes : List UInt8) : Except String String :=
  match String.fromUTF8? ⟨bytes.toArray⟩ with
  | some s => .ok s
  | none => .error (host.undecodable bytes)

/-- `float(v)`. An error without a text is a `TypeError` or a `ValueError`. -/
def toFloat [PyFloat F] : Value F → Except (Option String) F
  | .float x => .ok x
  | .str s =>
    match PyFloat.parse s with
    | some x => .ok x
    | none => .error none
  | v =>
    match v.asInt with
    | some n =>
      match PyFloat.ofInt n with
      | some x => .ok x
      | none => .error (some "int too large to convert to float")
    | none => .error none

/-! ### The executor -/

variable [PyRuntime F] [PyFloat F]

omit [PyFloat F] in
/-- The text of a command. -/
def commandText : Value F → String
  | .list items => " ".intercalate (items.map Value.text)
  | v => v.text

omit [PyFloat F] in
/-- `_extract_command`. -/
def extractCommand : Value F → Except String String
  | .null => .error "LocalProcessExecutor requires a 'command' in the task payload"
  | .dict payload =>
    match (["command", "cmd", "shell"].filterMap fun key => payload.lookup key).find? fun v => !v.isNone with
    | some v => .ok (commandText v)
    | none => .error "LocalProcessExecutor: payload must contain a 'command' key"
  | v => .error s!"'{v.typeName}' object has no attribute 'get'"

/-- `_extract_timeout`. `_extract_command` has refused what is no dict. -/
def extractTimeout (executor : LocalProcessExecutor F) : Value F → Except String F
  | .dict payload =>
    match payload.lookup "timeout_seconds" with
    | some v =>
      match toFloat v with
      | .ok timeout => .ok timeout
      | .error (some text) => .error text
      | .error none => .ok executor.defaultTimeoutSeconds
    | none => .ok executor.defaultTimeoutSeconds
  | _ => .ok executor.defaultTimeoutSeconds

/-- The arguments of the process. -/
def arguments (host : Host F) (executor : LocalProcessExecutor F) (command : String) : Except String Arguments :=
  if executor.shell then .ok (.shell command)
  else
    match (splitWords [] command.toList).map String.ofList with
    | [] => .error "list index out of range"
    | executable :: rest =>
      match host.which executable with
      | some resolved => .ok (.exec resolved rest)
      | none => .error s!"Executable not found: {executable}"

/-- The text of an output that was cut off. -/
def partialText (host : Host F) : Option Captured → Except String String
  | some (.bytes bytes) => decode host bytes
  | some (.text s) => .ok s
  | none => .ok ""

/-- The error output that a timeout reports. -/
def timeoutText (timeout : F) (stderr : Option Captured) : String :=
  let message := s!"Command timed out after {PyRuntime.repr timeout}s"
  match stderr with
  | none => message
  | some (.bytes bytes) => if bytes.isEmpty then message else s!"{message}\n{reprBytes bytes}"
  | some (.text s) => if s.isEmpty then message else s!"{message}\n{s}"

/-- What `_run` makes of the end of the process. -/
def commandResult (host : Host F) (timeout : F) : Ending → Except String CommandResult
  | .finished returnCode (.ok (stdout, stderr)) => .ok { returnCode, stdout, stderr }
  | .finished _ (.error text) => .error text
  | .timedOut stdout stderr => do
    return { returnCode := -1, stdout := ← partialText host stdout, stderr := timeoutText timeout stderr }
  | .failed text => .error text

/-- `_run`. -/
def run (host : Host F) (executor : LocalProcessExecutor F) (command : String) (timeout : F) :
    Except String CommandResult := do
  let arguments ← arguments host executor command
  commandResult host timeout (host.run { arguments, timeout, workingDirectory := executor.workingDirectory })

/-- `execute`. -/
def execute (host : Host F) (executor : LocalProcessExecutor F) (payload : Value F) : Except String (Dict F) := do
  let command ← extractCommand payload
  let timeout ← extractTimeout executor payload
  let result ← run host executor command timeout
  return [("command", .str command), ("return_code", .int result.returnCode), ("stdout", .str result.stdout),
    ("stderr", .str result.stderr)]

/-- How the call for a task ends, for `_execute_task`. -/
def executeOutcome (host : Host F) (executor : LocalProcessExecutor F) (task : TaskLoop.Task (Value F)) :
    ExecuteOutcome (Dict F) :=
  match execute host executor (task.payload.getD .null) with
  | .ok result => .returned (some result)
  | .error text => .raised (some text)

end ComputeCloudNode.LocalExecutor
