/-!
# Arguments

The form of a command's arguments.  What starts with `-` is an option until a lone `--` has been
passed; an option with a value takes the next argument, whatever that is, and may be given once.
A call for help is answered if nothing that follows it is an option and nothing else is wrong.
-/

namespace TrivialFtp.Command

/-- The options a command knows, by their spellings, and how many other arguments it takes. -/
structure Grammar where
  /-- A spelling and the option it stands for. -/
  valued : List (String × String) := []
  switches : List (String × String) := []
  operands : Nat := 0
  deriving DecidableEq, Repr

/-- Arguments sorted by their kinds. -/
structure Sorted where
  values : List (String × String) := []
  switches : List String := []
  operands : List String := []
  help : Bool := false
  deriving DecidableEq, Repr

/-- An argument that calls for help. -/
def isHelp (arg : String) : Bool := arg = "--help" || arg = "help"

/-- An argument that is written as an option. -/
def isDashed (arg : String) : Bool := arg.toList.head? = some '-'

/-- Take one more operand, if there is room. -/
def Sorted.addOperand? (s : Sorted) (g : Grammar) (arg : String) : Option Sorted :=
  if s.operands.length < g.operands then some { s with operands := s.operands ++ [arg] }
  else none

/-- Take one more value, unless the option has one. -/
def Sorted.addValue? (s : Sorted) (name value : String) : Option Sorted :=
  if (s.values.lookup name).isSome then none
  else some { s with values := s.values ++ [(name, value)] }

/-- Sort arguments; `s` holds those that came before. -/
def sortFrom (g : Grammar) (s : Sorted) : List String → Option Sorted
  | [] => some s
  | arg :: rest =>
    if isHelp arg then sortFrom g { s with help := true } rest
    else if arg = "--" then
      rest.foldlM (fun s arg => s.addOperand? g arg) s
    else if isDashed arg then
      if s.help then none
      else match g.switches.lookup arg with
        | some name => sortFrom g { s with switches := name :: s.switches } rest
        | none =>
          match g.valued.lookup arg, rest with
          | some name, value :: rest =>
            match s.addValue? name value with
            | some s => sortFrom g s rest
            | none => none
          | _, _ => none
    else match s.addOperand? g arg with
      | some s => sortFrom g s rest
      | none => none

/-- Sort the arguments of a command. -/
def sort? (g : Grammar) (args : List String) : Option Sorted := sortFrom g {} args

/-- The command that an argument calls: by its name, or by its letter.  A command without a letter
has the null character for one, so that character alone calls the first command. -/
def commandCalled? (names : List String) (arg : String) : Option String :=
  if arg = "\x00" then names.head? else names.find? (· = arg)

/-- The arguments before the name of a command: whether the log is to be verbose, whether help
was called for, and the command with the arguments after its name. -/
def splitCommand? (names : List String) (verbose help plain : Bool) :
    List String → Option (Bool × Bool × Option (String × List String))
  | [] => some (verbose, help, none)
  | arg :: rest =>
    if isHelp arg ∧ !plain then splitCommand? names verbose true plain rest
    else if isDashed arg ∧ !plain then
      if arg = "--" then splitCommand? names verbose help true rest
      else if help then none
      else if arg = "-v" ∨ arg = "--verbose" then splitCommand? names true help plain rest
      else none
    else (commandCalled? names arg).map fun name =>
      (verbose, help, some (name, if help then "help" :: rest else rest))

end TrivialFtp.Command
