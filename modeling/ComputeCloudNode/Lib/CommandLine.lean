import Mathlib.Data.List.Basic

/-! How a program reads its arguments when its options come first. The reading belongs to
the program and is a parameter: `Reads` names what is relied on. An option that the program
knows takes the next argument as its value, whatever that looks like, and the program
refuses a value that it does not accept; the first argument that does not look like an
option ends the options. `parse` is a reading of this kind. -/
namespace CommandLine

/-- An option as it is written, and the argument that it takes. -/
abbrev Setting := String × Option String

/-- What a program makes of its arguments: the options and what is left, unless it refuses. -/
abbrev Reading := List String → Option (List Setting × List String)

/-- What may be an option: a dash, and something behind it. -/
def isOption (arg : String) : Bool :=
  match arg.toList with
  | '-' :: _ :: _ => true
  | _ => false

/-- The arguments of one option. -/
def spell (setting : Setting) : List String := setting.1 :: setting.2.toList

/-- The program knows the option, and whether it takes a value. -/
structure Known (takesValue : String → Option Bool) (setting : Setting) : Prop where
  option : isOption setting.1
  named : setting.1 ≠ "--"
  takes : takesValue setting.1 = some setting.2.isSome

/-- The reading of a program that knows these options and accepts these values. -/
structure Reads (takesValue : String → Option Bool) (accepts : Setting → Bool) (read : Reading) : Prop where
  setting : ∀ setting rest, Known takesValue setting → read (spell setting ++ rest) =
    if accepts setting then (read rest).map fun left => (setting :: left.1, left.2) else none
  operand : ∀ arg rest, isOption arg = false → read (arg :: rest) = some ([], arg :: rest)
  /-- An argument that looks like an option is not left as an operand. -/
  option : ∀ arg rest, isOption arg → read (arg :: rest) ≠ some ([], arg :: rest)

variable {takesValue : String → Option Bool} {accepts : Setting → Bool} {read : Reading} {settings : List Setting}
  {arg : String} {rest : List String}

theorem Reads.spelled (reads : Reads takesValue accepts read) (known : ∀ setting ∈ settings, Known takesValue setting)
    (rest : List String) : read (settings.flatMap spell ++ rest) =
      if settings.all accepts then (read rest).map fun left => (settings ++ left.1, left.2) else none := by
  induction settings with
  | nil => simp
  | cons setting settings ih =>
    obtain ⟨here, below⟩ := List.forall_mem_cons.mp known
    rw [List.flatMap_cons, List.append_assoc, reads.setting setting _ here, ih below, List.all_cons]
    by_cases first : accepts setting <;> by_cases later : settings.all accepts <;> simp [first, later, Function.comp_def]

/-- Options are read one by one; an unknown option, a value that is missing and one that is
not accepted are refused, and `--` ends the options. -/
def parse (takesValue : String → Option Bool) (accepts : Setting → Bool) : Reading
  | [] => some ([], [])
  | arg :: rest =>
    if arg = "--" then some ([], rest)
    else if isOption arg then
      match takesValue arg with
      | none => none
      | some false =>
        if accepts (arg, none) then
          (parse takesValue accepts rest).map fun left => ((arg, none) :: left.1, left.2)
        else none
      | some true =>
        match rest with
        | [] => none
        | value :: rest =>
          if accepts (arg, some value) then
            (parse takesValue accepts rest).map fun left => ((arg, some value) :: left.1, left.2)
          else none
    else some ([], arg :: rest)

end CommandLine
