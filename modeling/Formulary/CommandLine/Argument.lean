/-!
# Arguments of a command line

A `Layout` says which operands and options a command takes, and `Layout.read` sorts arguments by it.

* `--name value` and `--name=value` give an option its value. So do `-n value`, `-nvalue` and
  `-n=value` where the option has a letter. A value in an argument of its own must not begin with a
  hyphen, unless it is a hyphen alone.
* Letters that take no value may stand in front of others behind one hyphen. They are `-v`, also
  `--verbose`, which every command takes any number of times, and `-h`, also `--help`, which ends the
  reading.
* After `--` all arguments are operands.
-/

namespace Formulary.CommandLine

/-- What gives a value to a command by its place. -/
structure Operand where
  /-- What it is called. -/
  name : String
  /-- Whether it names a file, and so cannot be empty. -/
  isPath : Bool
deriving DecidableEq, Repr

/-- What gives a value to a command by a name. -/
structure NamedOption where
  /-- The name, which follows two hyphens. -/
  name : String
  /-- The letter, which follows one hyphen. -/
  letter : Option Char := none
  /-- Whether its value names a file, and so cannot be empty. -/
  isPath : Bool := false
  /-- Whether it may be given more than once. -/
  repeats : Bool := false
deriving DecidableEq, Repr

/-- What a command takes. -/
structure Layout where
  /-- The name of the command. -/
  name : String
  /-- What it is for. -/
  purpose : String
  /-- Its operands, all of which are needed. -/
  operands : List Operand := []
  /-- Its options. -/
  options : List NamedOption := []
  /-- Whether it tells its version. -/
  hasVersion : Bool := false
deriving DecidableEq, Repr

/-- What can be wrong with arguments. -/
inductive UsageFault where
  /-- There is no command. -/
  | noCommand
  /-- There is no such command. -/
  | unknownCommand (name : String)
  /-- There is no such option, or no room for another operand. -/
  | unexpectedArgument (text : String)
  /-- An option lacks its value. -/
  | missingValue (option : String)
  /-- The name of a file is empty. -/
  | emptyPath (name : String)
  /-- An option has a value but takes none. -/
  | unwantedValue (option : String)
  /-- An option is given more than once. -/
  | repeatedOption (option : String)
  /-- There are too few operands. -/
  | missingOperand (name : String)
deriving DecidableEq, Repr

/-- What is said about wrong arguments. -/
def UsageFault.message : UsageFault → String
  | noCommand => "a command is required"
  | unknownCommand name => s!"unrecognized command '{name}'"
  | unexpectedArgument text => s!"unexpected argument '{text}' found"
  | missingValue option => s!"a value is required for '--{option}' but none was supplied"
  | emptyPath name => s!"a value is required for '{name}' but none was supplied"
  | unwantedValue option => s!"'--{option}' takes no value"
  | repeatedOption option => s!"the argument '--{option}' cannot be used multiple times"
  | missingOperand name => s!"the argument '{name}' was not provided"

/-- What arguments ask for in place of a command. -/
inductive Detour where
  /-- They are wrong. -/
  | usage (fault : UsageFault)
  /-- They ask how a command is used. -/
  | help (layout : Layout)
  /-- They ask for the version of the program. -/
  | version
deriving DecidableEq, Repr

/-- The values that arguments give to a command. -/
structure Given where
  /-- The operands, in order. -/
  operands : List String := []
  /-- The names of options with their values, in order. -/
  options : List (String × String) := []
deriving DecidableEq, Repr

/-- The values of an option, in order. -/
def Given.valuesOf (g : Given) (name : String) : List String :=
  (g.options.filter fun option => option.1 = name).map (·.2)

/-- The value of an option. -/
def Given.value? (g : Given) (name : String) : Option String := (g.valuesOf name).head?

/-- What a single argument means. -/
inductive Meaning where
  /-- An operand. -/
  | operand (text : String)
  /-- Nothing that matters to the command. -/
  | nothing
  /-- An option with its value. -/
  | value (option : NamedOption) (text : String)
  /-- An option whose value is the next argument. -/
  | opening (option : NamedOption)
  /-- The end of the options. -/
  | endOfOptions
deriving DecidableEq, Repr

/-- Whether an argument looks like an option, or ends them. -/
def looksLikeOption (argument : String) : Bool :=
  match argument.toList with
  | '-' :: _ :: _ => true
  | _ => false

/-- A name with the text behind the first equals sign. -/
def splitAtEquals (text : List Char) : String × Option String :=
  (String.ofList (text.takeWhile (· ≠ '=')),
    match text.dropWhile (· ≠ '=') with
    | _ :: value => some (String.ofList value)
    | [] => none)

namespace Layout

/-- What a name behind two hyphens means. -/
def meaningOfName (l : Layout) (name : String) (value? : Option String) : Except Detour Meaning :=
  match l.options.find? fun option => option.name = name, value? with
  | some option, some text => .ok (.value option text)
  | some option, none => .ok (.opening option)
  | none, value? =>
    if name = "verbose" ∨ name = "help" ∨ (l.hasVersion ∧ name = "version") then
      if value?.isSome then .error (.usage (.unwantedValue name))
      else if name = "verbose" then .ok .nothing
      else if name = "help" then .error (.help l)
      else .error .version
    else .error (.usage (.unexpectedArgument ("--" ++ name)))

/-- What letters behind one hyphen mean. -/
def meaningOfLetters (l : Layout) : List Char → Except Detour Meaning
  | [] => .ok .nothing
  | c :: rest =>
    match l.options.find? fun option => option.letter = some c, rest with
    | some option, [] => .ok (.opening option)
    | some option, '=' :: text => .ok (.value option (String.ofList text))
    | some option, text => .ok (.value option (String.ofList text))
    | none, rest =>
      if c = 'v' then l.meaningOfLetters rest
      else if c = 'h' then .error (.help l)
      else if c = 'V' ∧ l.hasVersion then .error .version
      else .error (.usage (.unexpectedArgument (String.ofList ['-', c])))

/-- What an argument means. -/
def meaning (l : Layout) (argument : String) : Except Detour Meaning :=
  match argument.toList with
  | ['-', '-'] => .ok .endOfOptions
  | '-' :: '-' :: text => let (name, value?) := splitAtEquals text; l.meaningOfName name value?
  | '-' :: c :: rest => l.meaningOfLetters (c :: rest)
  | _ => .ok (.operand argument)

/-- Takes an operand, if there is room for it. -/
def addOperand (l : Layout) (g : Given) (text : String) : Except Detour Given :=
  match l.operands[g.operands.length]? with
  | none => .error (.usage (.unexpectedArgument text))
  | some operand =>
    if operand.isPath ∧ text.isEmpty then .error (.usage (.emptyPath operand.name))
    else .ok { g with operands := g.operands ++ [text] }

/-- Takes the value of an option. -/
def addValue (g : Given) (option : NamedOption) (text : String) : Except Detour Given :=
  if option.isPath ∧ text.isEmpty then .error (.usage (.emptyPath option.name))
  else if ¬option.repeats ∧ (g.value? option.name).isSome then
    .error (.usage (.repeatedOption option.name))
  else .ok { g with options := g.options ++ [(option.name, text)] }

/-- Sorts arguments, after some have been taken. -/
def readOn (l : Layout) (g : Given) : List String → Except Detour Given
  | [] => .ok g
  | argument :: rest => do
    match ← l.meaning argument with
    | .operand text => l.readOn (← l.addOperand g text) rest
    | .nothing => l.readOn g rest
    | .value option text => l.readOn (← addValue g option text) rest
    | .endOfOptions => rest.foldlM l.addOperand g
    | .opening option =>
      match rest with
      | [] => .error (.usage (.missingValue option.name))
      | text :: rest =>
        if looksLikeOption text then .error (.usage (.missingValue option.name))
        else l.readOn (← addValue g option text) rest

/-- Sorts the arguments of a command; all its operands have to be there. -/
def read (l : Layout) (arguments : List String) : Except Detour Given := do
  let g ← l.readOn {} arguments
  match l.operands[g.operands.length]? with
  | none => return g
  | some operand => throw (.usage (.missingOperand operand.name))

/-- How a command is used. -/
def help (l : Layout) : String :=
  let line (text : String) : String := "\n  " ++ text
  let operands := l.operands.map fun operand => line s!"<{operand.name}>"
  let options := l.options.map fun option =>
    let letter := option.letter.elim "" fun c => String.ofList ['-', c, ',', ' ']
    line s!"{letter}--{option.name} <VALUE>"
  l.purpose ++ "\n" ++ String.join operands ++ String.join options ++ line "-v, --verbose" ++
    line "-h, --help" ++ "\n"

end Layout

end Formulary.CommandLine
