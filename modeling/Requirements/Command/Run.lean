import Requirements.Command.Arguments
import Requirements.Command.Report
import Requirements.Config.Loading

/-!
# Running a command line

A run reads its arguments and the environment, looks at files, and leaves an exit
code and what it prints. It changes nothing.
-/

namespace Requirements.Command

/-- What the program is called. -/
def programName : String := "cmtport"

/-- The version of the program. -/
def programVersion : String := "0.1.0"

/-- The name that is printed with the version. -/
def versionName : Option Verb → String
  | none => programName
  | some verb => String.intercalate "-" (programName :: verb.names.take 1)

/-- An option as the help shows it. -/
def optionHelp (spec : OptionSpec) : String :=
  let letter := match spec.letter with
    | some letter => "-" ++ String.singleton letter ++ ", "
    | none => "    "
  let value := match spec.kind with
    | .setting setting => match setting with
      | .profile => " <PROFILE>"
      | .jobs => " <JOBS>"
    | _ => ""
  line ("  " ++ letter ++ "--" ++ spec.name ++ value)

/-- The help for the program or for a command. -/
def help (verb : Option Verb) : String :=
  let usage := match verb with
    | none => " [OPTIONS] <COMMAND>"
    | some .convert => " convert [OPTIONS] [DIR]"
    | some .profiles => " profiles [OPTIONS]"
    | some .parse => " parse [OPTIONS] <FILE>"
  let commands := match verb with
    | none =>
      "\n" ++ line "Commands:"
        ++ String.join (Verb.all.map fun verb => line ("  " ++ String.intercalate ", " verb.names))
    | some _ => ""
  line ("Usage: " ++ programName ++ usage) ++ commands ++ "\n" ++ line "Options:"
    ++ String.join ((optionsOf verb).map optionHelp)

/-- What a run leaves whose arguments ask for nothing to run. -/
def Stop.result : Stop → Result
  | .help v => { stdout := Command.help v }
  | .version v => { stdout := line (versionName v ++ " " ++ programVersion) }
  | .fault f => { code := 2, stderr := line ("error: " ++ f.message) }

/-- The configuration for a conversion: the file of the directory, then the environment,
then the arguments. -/
def configure (env : Environment) (tree : FileTree) (request : ConvertRequest) :
    Except Failure Config :=
  match Config.load tree env request.dir with
  | .error error =>
    let causes := match error with
      | .unreadable fault => [error.message, fault.message]
      | _ => [error.message]
    .error ⟨"Failed to load " ++ Config.fileName, causes⟩
  | .ok loaded =>
    let config := match request.profile with
      | some name => loaded.config.withProfile name
      | none => loaded.config
    let config := match request.jobs with
      | some jobs => config.withJobs jobs
      | none => config
    match config.fault? Profile.allNames with
    | some error => .error ⟨"Invalid configuration", [error.message]⟩
    | none => .ok config

/-- Run a conversion with a configuration. -/
def convertWith (tree : FileTree) (colours : Bool) (request : ConvertRequest) (config : Config) :
    Result :=
  match Profile.select config.profile config.overrides with
  | .error error => { code := 1, stderr := line ("Error: " ++ error.message) }
  | .ok profile =>
    let conversion : Conversion := { tree, profile, outputs := config.outputFiles }
    let outcomes := conversion.convertAll (tree.discover request.dir)
    if request.json then reportJson (outcomes.map (·.2))
    else if outcomes.isEmpty then
      { stdout := if request.quiet then "" else line (nothingFound colours request.dir) }
    else report colours request.quiet profile.name outcomes

/-- Run a conversion. -/
def runConvert (env : Environment) (terminal : Bool) (tree : FileTree) (request : ConvertRequest) :
    Result :=
  let noColor := request.noColor || isAffirmed env "NO_COLOR"
  match configure env tree request with
  | .error failure => failure.result
  | .ok config => convertWith tree (!noColor && wantsColours env terminal) request config

/-- List the profiles. -/
def runProfiles (env : Environment) (terminal json : Bool) : Result where
  stdout :=
    if json then line (Json.array (Profile.all.map profileJson)).pretty
    else String.join (Profile.all.map (profileText (wantsColours env terminal)))

/-- Print the statements of a file. -/
def runParse (tree : FileTree) (path : Path) : Result :=
  match File.load tree path with
  | .ok file => { stdout := line (Json.ofFile file).pretty }
  | .error error => Failure.result ⟨"Failed to parse " ++ path.text, [error.message]⟩

/-- The files that a request looks at whatever they hold. -/
def Request.files : Request → List Path
  | .convert request => Config.candidates request.dir
  | .profiles _ => []
  | .parse file => [file]

/-- The directory below which a request looks for requirements files. -/
def Request.root? : Request → Option Path
  | .convert request => some request.dir
  | _ => none

/-- The output files that a request looks at, once its configuration and the requirements
files are known. -/
def Request.outputFiles (env : Environment) (tree : FileTree) : Request → List Path
  | .convert request =>
    match configure env tree request with
    | .error _ => []
    | .ok config =>
      ((tree.discover request.dir).filterMap FileTree.packageDir?).flatMap
        config.outputFiles.candidates
  | _ => []

/-- Run a command line, with a standard output that is or is not a terminal. -/
def run (env : Environment) (terminal : Bool) (tree : FileTree) (arguments : List String) :
    Result :=
  match Request.ofArguments arguments with
  | .error stop => stop.result
  | .ok (.convert request) => runConvert env terminal tree request
  | .ok (.profiles json) => runProfiles env terminal json
  | .ok (.parse file) => runParse tree file

end Requirements.Command
