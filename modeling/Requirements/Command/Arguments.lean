import Requirements.Path
import Requirements.Text.Count

/-!
# Command line arguments

A command line has options of the program, the name of a command, and options and an
operand of that command. A long option stands after two dashes, with its value after
an equals sign or in the next argument. Short options share one dash; the first of
them that takes a value takes the rest of the argument, or else the next one. After
two dashes alone there are only operands. Arguments are read in order: help, the
version or the first fault ends the reading, while what is missing or does not go
together is noticed at the end.
-/

namespace Requirements.Command

/-- The commands. -/
inductive Verb where
  | convert
  | profiles
  | parse
  deriving DecidableEq, Repr

/-- The options that are given or not given. -/
inductive Flag where
  | verbose
  | quiet
  | json
  | noColor
  deriving DecidableEq, Repr

/-- The options that take a value. -/
inductive Setting where
  | profile
  | jobs
  deriving DecidableEq, Repr

/-- What an option does. -/
inductive OptionKind where
  | help
  | version
  | flag (flag : Flag)
  | setting (setting : Setting)
  deriving DecidableEq, Repr

/-- An option: its long name, its letter if it has one, and what it does. -/
structure OptionSpec where
  name : String
  letter : Option Char
  kind : OptionKind
  deriving DecidableEq, Repr

namespace Verb

/-- The names of a command. The first is its own. -/
def names : Verb → List String
  | .convert => ["convert", "c"]
  | .profiles => ["profiles"]
  | .parse => ["parse"]

/-- The commands in the order in which they are listed. -/
def all : List Verb := [.convert, .profiles, .parse]

/-- The command of a name. -/
def ofName? (name : String) : Option Verb := all.find? fun verb => name ∈ verb.names

/-- Whether a command takes an operand. -/
def takesOperand : Verb → Bool
  | .convert | .parse => true
  | .profiles => false

/-- The options that only one command has. -/
def ownOptions : Verb → List OptionSpec
  | .convert =>
    [⟨"profile", some 'p', .setting .profile⟩,
     ⟨"json", none, .flag .json⟩,
     ⟨"jobs", some 'j', .setting .jobs⟩,
     ⟨"no-color", none, .flag .noColor⟩]
  | .profiles => [⟨"json", none, .flag .json⟩]
  | .parse => []

end Verb

/-- The options that stand before the name of a command as well as after it. -/
def commonOptions : List OptionSpec :=
  [⟨"verbose", some 'v', .flag .verbose⟩,
   ⟨"quiet", some 'q', .flag .quiet⟩,
   ⟨"help", some 'h', .help⟩,
   ⟨"version", some 'V', .version⟩]

/-- The options after the name of a command, or before any. -/
def optionsOf : Option Verb → List OptionSpec
  | none => commonOptions
  | some verb => verb.ownOptions ++ commonOptions

/-- What is wrong with a command line. -/
inductive ArgumentFault where
  | unknown (argument : String)
  | repeated (option : String)
  | missingValue (option : String)
  | unwantedValue (option : String)
  | badCount (option value : String) (fault : Text.CountFault)
  | emptyOperand
  | missingOperand
  | missingCommand
  | verboseAndQuiet
  deriving DecidableEq, Repr

/-- The words for a fault. -/
def ArgumentFault.message : ArgumentFault → String
  | .unknown argument => "unexpected argument '" ++ argument ++ "'"
  | .repeated option => "'--" ++ option ++ "' is given more than once"
  | .missingValue option => "'--" ++ option ++ "' needs a value"
  | .unwantedValue option => "'--" ++ option ++ "' takes no value"
  | .badCount option value fault =>
    "invalid value '" ++ value ++ "' for '--" ++ option ++ "': " ++ fault.message
  | .emptyOperand => "the path must not be empty"
  | .missingOperand => "a file is needed"
  | .missingCommand => "a command is needed"
  | .verboseAndQuiet => "'--verbose' and '--quiet' exclude each other"

/-- Why reading ends before there is something to run. -/
inductive Stop where
  | help (verb : Option Verb)
  | version (verb : Option Verb)
  | fault (f : ArgumentFault)
  deriving DecidableEq, Repr

/-- What has been given before the name of a command, or after it. -/
structure Given where
  flags : List Flag := []
  profile : Option String := none
  jobs : Option Nat := none
  operand : Option Path := none
  deriving DecidableEq, Repr

namespace Given

/-- Take a flag, which must be new. -/
def takeFlag (given : Given) (name : String) (flag : Flag) : Except Stop Given :=
  if flag ∈ given.flags then .error (.fault (.repeated name))
  else .ok { given with flags := flag :: given.flags }

/-- Take the value of an option, which must be new. -/
def takeSetting (given : Given) (name : String) (setting : Setting) (value : String) :
    Except Stop Given :=
  match setting with
  | .profile =>
    if given.profile.isSome then .error (.fault (.repeated name))
    else .ok { given with profile := some value }
  | .jobs =>
    match Text.readCount value.toList with
    | .error fault => .error (.fault (.badCount name value fault))
    | .ok jobs =>
      if given.jobs.isSome then .error (.fault (.repeated name))
      else .ok { given with jobs := some jobs }

/-- Take the operand of a command, which must be the only one. -/
def takeOperand (given : Given) (verb : Option Verb) (argument : String) : Except Stop Given :=
  if verb.any Verb.takesOperand && given.operand.isNone then
    if argument.isEmpty then .error (.fault .emptyOperand)
    else .ok { given with operand := some ⟨argument⟩ }
  else .error (.fault (.unknown argument))

/-- Take arguments that can only be operands. -/
def takeOperands (given : Given) (verb : Option Verb) (arguments : List String) :
    Except Stop Given :=
  arguments.foldlM (fun given argument => given.takeOperand verb argument) given

/-- What has been given must go together. -/
def check (given : Given) : Except Stop Unit :=
  if .verbose ∈ given.flags ∧ .quiet ∈ given.flags then .error (.fault .verboseAndQuiet)
  else .ok ()

end Given

/-- An option that still waits for its value. -/
structure Waiting where
  name : String
  setting : Setting
  deriving DecidableEq, Repr

/-- What an argument looks like. A dash alone is an ordinary word. -/
inductive Argument where
  | word
  | endOfOptions
  | long (name : List Char) (value : Option (List Char))
  | short (letters : List Char)
  deriving DecidableEq, Repr

/-- Look at an argument. -/
def Argument.ofList : List Char → Argument
  | ['-'] => .word
  | ['-', '-'] => .endOfOptions
  | '-' :: '-' :: rest =>
    match rest.dropWhile (· ≠ '=') with
    | [] => .long rest none
    | _ :: value => .long (rest.takeWhile (· ≠ '=')) (some value)
  | '-' :: letters => .short letters
  | _ => .word

/-- Take a long option. -/
def takeLong (verb : Option Verb) (given : Given) (argument : String) (name : List Char)
    (value : Option (List Char)) : Except Stop (Given × Option Waiting) :=
  match (optionsOf verb).find? fun spec => spec.name.toList = name with
  | none => .error (.fault (.unknown argument))
  | some spec =>
    match spec.kind, value with
    | .setting setting, none => .ok (given, some ⟨spec.name, setting⟩)
    | .setting setting, some value => do
      return (← given.takeSetting spec.name setting (.ofList value), none)
    | _, some _ => .error (.fault (.unwantedValue spec.name))
    | .flag flag, none => do return (← given.takeFlag spec.name flag, none)
    | .help, none => .error (.help verb)
    | .version, none => .error (.version verb)

/-- Take short options from the letters of an argument. An equals sign before a value
is dropped. -/
def takeShort (verb : Option Verb) (argument : String) :
    Given → List Char → Except Stop (Given × Option Waiting)
  | given, [] => .ok (given, none)
  | given, letter :: rest =>
    match (optionsOf verb).find? fun spec => spec.letter = some letter with
    | none => .error (.fault (.unknown argument))
    | some spec =>
      match spec.kind with
      | .help => .error (.help verb)
      | .version => .error (.version verb)
      | .flag flag => do takeShort verb argument (← given.takeFlag spec.name flag) rest
      | .setting setting =>
        match rest with
        | [] => .ok (given, some ⟨spec.name, setting⟩)
        | c :: value => do
          let value := if c = '=' then value else c :: value
          return (← given.takeSetting spec.name setting (.ofList value), none)

/-- Read the arguments after the name of a command, or those before it. The latter end
at the first word, which is given back with what follows it. -/
def readArguments (verb : Option Verb) :
    Given → Option Waiting → List String → Except Stop (Given × List String)
  | given, none, [] => .ok (given, [])
  | _, some waiting, [] => .error (.fault (.missingValue waiting.name))
  | given, some waiting, argument :: rest =>
    match Argument.ofList argument.toList with
    | .word => do
      readArguments verb (← given.takeSetting waiting.name waiting.setting argument) none rest
    | _ => .error (.fault (.missingValue waiting.name))
  | given, none, argument :: rest =>
    match Argument.ofList argument.toList with
    | .endOfOptions => do return (← given.takeOperands verb rest, [])
    | .long name value => do
      let (given, waiting) ← takeLong verb given argument name value
      readArguments verb given waiting rest
    | .short letters => do
      let (given, waiting) ← takeShort verb argument given letters
      readArguments verb given waiting rest
    | .word =>
      if verb.isNone then .ok (given, argument :: rest)
      else do readArguments verb (← given.takeOperand verb argument) none rest

/-- What a conversion is asked for. -/
structure ConvertRequest where
  dir : Path := ⟨"."⟩
  profile : Option String := none
  jobs : Option Nat := none
  json : Bool := false
  noColor : Bool := false
  quiet : Bool := false
  deriving DecidableEq, Repr

/-- What a command line asks for. -/
inductive Request where
  | convert (request : ConvertRequest)
  | profiles (json : Bool)
  | parse (file : Path)
  deriving DecidableEq, Repr

/-- Read the arguments after the name of a command. -/
def Request.ofVerb (verb : Verb) (above : Given) (arguments : List String) :
    Except Stop Request := do
  let (given, _) ← readArguments (some verb) {} none arguments
  let request ← match verb with
    | .convert => .ok (.convert {
        dir := given.operand.getD ⟨"."⟩
        profile := given.profile
        jobs := given.jobs
        json := given.flags.contains .json
        noColor := given.flags.contains .noColor
        quiet := given.flags.contains .quiet || above.flags.contains .quiet })
    | .profiles => .ok (.profiles (given.flags.contains .json))
    | .parse =>
      match given.operand with
      | some file => .ok (.parse file)
      | none => .error (.fault .missingOperand)
  given.check
  above.check
  return request

/-- The name of the command that asks for help. -/
def helpName : String := "help"

/-- What follows the help command: nothing, or the name of one command. -/
def helpStop : List String → Stop
  | [] => .help none
  | [name] =>
    if name = helpName then .help none
    else match Verb.ofName? name with
      | some verb => .help (some verb)
      | none => .fault (.unknown name)
  | _ :: argument :: _ => .fault (.unknown argument)

/-- Read a command line. -/
def Request.ofArguments (arguments : List String) : Except Stop Request := do
  match ← readArguments none {} none arguments with
  | (_, []) => .error (.fault .missingCommand)
  | (above, name :: rest) =>
    if name = helpName then .error (helpStop rest)
    else match Verb.ofName? name with
      | none => .error (.fault (.unknown name))
      | some verb => ofVerb verb above rest

end Requirements.Command
