import ComputeCloudNode.Lib.Decimal
import ComputeCloudNode.Lib.Dicts
import ComputeCloudNode.Llm.Uri

/-! Payloads and answers as `json.loads` builds them, and the built-in functions of
Python that the client applies to their fields. Floats are left to the interpreter:
their type is a parameter. -/
namespace ComputeCloudNode

/-- What the built-in functions need to know of `float` and of the Unicode tables. -/
class PyRuntime (F : Type) where
  /-- `int(x)`, which refuses infinities and NaN. -/
  truncate : F → Except String Int
  isZero : F → Bool
  repr : F → String
  /-- `sum` of numbers that are not all integers. -/
  sum : List (Int ⊕ F) → F
  /-- `str.isprintable`, asked only beyond ASCII. -/
  isPrintable : Char → Bool
  /-- `sys.get_int_max_str_digits()`; 0 is no limit. -/
  maxStrDigits : Nat

/-- Floats without a fraction, small enough to be printed in full. -/
instance : PyRuntime Int where
  truncate n := .ok n
  isZero n := n = 0
  repr n := s!"{n}.0"
  sum numbers := numbers.foldl (fun total n => total + n.elim id id) 0
  isPrintable _ := true
  maxStrDigits := 4300

inductive Value (F : Type)
  | null
  | bool (b : Bool)
  | int (n : Int)
  | float (x : F)
  | str (s : String)
  | list (items : List (Value F))
  | dict (items : List (String × Value F))

/-- The items of a dict. -/
abbrev Dict (F : Type) := List (String × Value F)

namespace Value

variable {F : Type}

/-- `type(v).__name__`. -/
def typeName : Value F → String
  | null => "NoneType"
  | bool _ => "bool"
  | int _ => "int"
  | float _ => "float"
  | str _ => "str"
  | list _ => "list"
  | dict _ => "dict"

/-- The number if `isinstance(v, int)`, which includes the booleans. -/
def asInt : Value F → Option Int
  | bool b => some (if b then 1 else 0)
  | int n => some n
  | _ => none

def isNone : Value F → Bool
  | null => true
  | _ => false

def ofInts (numbers : List Int) : Value F := list (numbers.map int)

/-! ### `repr` and `str` -/

/-- The last digits of a number to base 16. -/
def hexDigits : Nat → Nat → List Char
  | 0, _ => []
  | width + 1, n => hexDigits width (n / 16) ++ [Nat.digitChar (n % 16)]

variable [PyRuntime F]

variable (F) in
/-- A character within quotes. -/
def reprChar (quote : Char) (c : Char) : List Char :=
  if c = quote ∨ c = '\\' then ['\\', c]
  else if c = '\t' then ['\\', 't']
  else if c = '\n' then ['\\', 'n']
  else if c = '\r' then ['\\', 'r']
  else if ' ' ≤ c ∧ c.toNat < 0x7f ∨ 0x7f < c.toNat ∧ PyRuntime.isPrintable F c then [c]
  else if c.toNat ≤ 0xff then '\\' :: 'x' :: hexDigits 2 c.toNat
  else if c.toNat ≤ 0xffff then '\\' :: 'u' :: hexDigits 4 c.toNat
  else '\\' :: 'U' :: hexDigits 8 c.toNat

variable (F) in
/-- `repr` of a text. -/
def reprStr (s : String) : String :=
  let quote := if '\'' ∈ s.toList ∧ '"' ∉ s.toList then '"' else '\''
  String.ofList (quote :: s.toList.flatMap (reprChar F quote) ++ [quote])

mutual

def repr : Value F → String
  | null => "None"
  | bool b => if b then "True" else "False"
  | int n => toString n
  | float x => PyRuntime.repr x
  | str s => reprStr F s
  | list items => "[" ++ ", ".intercalate (reprItems items) ++ "]"
  | dict items => "\x7b" ++ ", ".intercalate (reprPairs items) ++ "\x7d"

def reprItems : List (Value F) → List String
  | [] => []
  | v :: rest => repr v :: reprItems rest

def reprPairs : List (String × Value F) → List String
  | [] => []
  | (key, v) :: rest => (reprStr F key ++ ": " ++ repr v) :: reprPairs rest

end

/-- `str(v)`. -/
def text : Value F → String
  | str s => s
  | v => repr v

/-! ### Conversions -/

/-- `bool(v)`. -/
def truthy : Value F → Bool
  | null => false
  | bool b => b
  | int n => n ≠ 0
  | float x => !PyRuntime.isZero x
  | str s => s ≠ ""
  | list items => !items.isEmpty
  | dict items => !items.isEmpty

/-- The spaces that `int` skips: those of ASCII but not its separators U+001C to U+001F,
and those of Unicode, which are replaced by blanks first. -/
def isIntSpace (c : Char) : Bool := c = ' ' ∨ (9 ≤ c.toNat ∧ c.toNat ≤ 13) ∨ (127 ≤ c.toNat ∧ Uri.isSpace c)

/-- What `int` sees in a text. -/
inductive IntText
  | invalid
  | tooLong (digits : Nat)
  | number (n : Nat)

/-- Digits with single underscores between them, then only spaces. -/
def readDigits (limit : Nat) (cs : List Char) : IntText :=
  let groups := (cs.takeWhile fun c => Decimal.isDigit c || c = '_').splitOn '_'
  let rest := cs.dropWhile fun c => Decimal.isDigit c || c = '_'
  if groups.any List.isEmpty then .invalid
  else if limit ≠ 0 ∧ limit < groups.flatten.length then .tooLong groups.flatten.length
  else if rest.all isIntSpace then .number (Decimal.value groups.flatten)
  else .invalid

variable (F) in
/-- `int(s)`. -/
def parseInt (s : String) : Except String Int :=
  let (sign, digits) :=
    match s.toList.dropWhile isIntSpace with
    | '+' :: digits => ((1 : Int), digits)
    | '-' :: digits => (-1, digits)
    | digits => (1, digits)
  let limit := PyRuntime.maxStrDigits F
  match readDigits limit digits with
  | .invalid => .error ("invalid literal for int() with base 10: " ++ String.ofList ((reprStr F s).toList.take 200))
  | .tooLong count =>
    .error (s!"Exceeds the limit ({limit} digits) for integer string conversion: value has {count} digits; " ++
      "use sys.set_int_max_str_digits() to increase the limit")
  | .number n => .ok (sign * n)

/-- `int(v)`. -/
def toInt : Value F → Except String Int
  | bool b => .ok (if b then 1 else 0)
  | int n => .ok n
  | float x => PyRuntime.truncate x
  | str s => parseInt F s
  | v => .error s!"int() argument must be a string, a bytes-like object or a real number, not '{v.typeName}'"

@[simp] theorem toInt_int (n : Int) : toInt (int n : Value F) = .ok n := rfl

omit [PyRuntime F] in
@[simp] theorem asInt_int (n : Int) : asInt (int n : Value F) = some n := rfl

example : parseInt Int " -1_000\n" = .ok (-1000) := by decide +kernel

end Value

end ComputeCloudNode
