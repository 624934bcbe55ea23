import Cupping.Text.Lines

/-!
Reading program arguments: options with values, flags and operands, in any order. Reading goes from
left to right and stops at the first argument that does not fit.
-/

namespace Cupping.Console

/-- An option that takes a value. -/
structure OptionRule where
  name : String
  /-- Whether it can be given more than once. -/
  repeatable : Bool
  /-- Whether a text can be its value. -/
  accepts : String → Bool

/-- What can be given. -/
structure Grammar where
  options : List OptionRule
  flags : List String
  /-- For each operand, whether a text can be it. -/
  operands : List (String → Bool)
  /-- Whether a version can be asked for. -/
  hasVersion : Bool
  /-- Whether an operand names a command, to which all arguments behind it belong. -/
  hasCommands : Bool

/-- What has been given. -/
structure Given where
  /-- Options with their values, in order. -/
  values : List (String × String)
  flags : List String
  operands : List String
deriving DecidableEq, Repr

/-- Why arguments are not read to their end. -/
inductive Stop where
  | misuse
  | help
  | version
deriving DecidableEq, Repr

namespace Given

def empty : Given :=
  ⟨[], [], []⟩

def value? (given : Given) (name : String) : Option String :=
  given.values.lookup name

def valuesOf (given : Given) (name : String) : List String :=
  (given.values.filter (·.1 = name)).map (·.2)

def has (given : Given) (flag : String) : Bool :=
  given.flags.contains flag

def addValue (given : Given) (rule : OptionRule) (value : String) : Except Stop Given :=
  if !rule.repeatable && (given.value? rule.name).isSome then .error .misuse
  else if rule.accepts value then
    .ok { given with values := given.values ++ [(rule.name, value)] }
  else .error .misuse

def addFlag (given : Given) (flag : String) : Except Stop Given :=
  if given.has flag then .error .misuse else .ok { given with flags := given.flags ++ [flag] }

def addOperand (grammar : Grammar) (given : Given) (operand : String) : Except Stop Given :=
  match grammar.operands[given.operands.length]? with
  | none => .error .misuse
  | some accepts =>
    if accepts operand then .ok { given with operands := given.operands ++ [operand] }
    else .error .misuse

end Given

/-- What an argument is. -/
inductive Argument where
  /-- From here on there are only operands. -/
  | separator
  | option (rule : OptionRule) (value : Option String)
  | flag (name : String)
  | operand
  | stop (reason : Stop)

/-- Whether an argument cannot be the value of the option in front of it. -/
def looksLikeOption (argument : String) : Bool :=
  argument.startsWith "-" && argument ≠ "-"

namespace Grammar

/-- An argument that starts with two dashes, without them. -/
def ofName (grammar : Grammar) (text : List Char) : Argument :=
  let name := String.ofList (text.takeWhile (· ≠ '='))
  let value := match text.dropWhile (· ≠ '=') with
    | [] => none
    | _ :: value => some (String.ofList value)
  match grammar.options.find? (·.name = name) with
  | some rule => .option rule value
  | none =>
    if value.isSome then .stop .misuse
    else if grammar.flags.contains name then .flag name
    else if name = "help" then .stop .help
    else if name = "version" && grammar.hasVersion then .stop .version
    else .stop .misuse

def classify (grammar : Grammar) (argument : String) : Argument :=
  match argument.toList with
  | ['-', '-'] => .separator
  | '-' :: '-' :: text => grammar.ofName text
  | '-' :: 'h' :: _ => .stop .help
  | '-' :: 'V' :: _ => .stop (if grammar.hasVersion then .version else .misuse)
  | '-' :: _ :: _ => .stop .misuse
  | _ => .operand

/-- Reads arguments, and leaves those that belong to a command. -/
def read (grammar : Grammar) (given : Given) : List String → Except Stop (Given × List String)
  | [] => .ok (given, [])
  | argument :: rest =>
    match grammar.classify argument with
    | .stop reason => .error reason
    | .separator =>
      if grammar.hasCommands then .error .misuse
      else return (← rest.foldlM (Given.addOperand grammar) given, [])
    | .flag name => do grammar.read (← given.addFlag name) rest
    | .option rule (some value) => do grammar.read (← given.addValue rule value) rest
    | .option rule none =>
      match rest with
      | [] => .error .misuse
      | value :: rest =>
        if looksLikeOption value then .error .misuse
        else do grammar.read (← given.addValue rule value) rest
    | .operand =>
      if grammar.hasCommands then .ok (given, argument :: rest)
      else do grammar.read (← Given.addOperand grammar given argument) rest

end Grammar
end Cupping.Console
