import Requirements.Command.Style
import Requirements.Conversion
import Requirements.Json.Graph

/-!
# Reports

What a run prints: the outcome of each file with a summary for people, or the graphs
as JSON for programs; the profiles; and the reason if nothing could be done at all.
-/

namespace Requirements.Command

/-- What a run leaves: its exit code and what it printed. -/
structure Result where
  code : Nat := 0
  stdout : String := ""
  stderr : String := ""
  deriving DecidableEq, Repr

/-- A text as a line. -/
def line (text : String) : String := text ++ "\n"

/-- A noun for a number of things. -/
def plural (number : Nat) (noun : String) : String :=
  if number = 1 then noun else noun ++ "s"

/-- Why a run could do nothing: what it was doing, and the causes, each of the one
before it. -/
structure Failure where
  context : String
  causes : List String
  deriving DecidableEq, Repr

namespace Failure

/-- A cause after a label. Its further lines are indented as far as the first. -/
def labelled (label cause : String) : String :=
  let margin := '\n' :: List.replicate label.length ' '
  label ++ .ofList (Text.replaceAll ['\n'] margin cause.toList)

/-- The causes, with numbers if there are several. -/
def causeLines : List String → List String
  | [cause] => [labelled "    " cause]
  | causes => causes.zipIdx.map fun (cause, number) =>
    labelled ("    " ++ Nat.repr number ++ ": ") cause

/-- The failure in words. -/
def text (failure : Failure) : String :=
  line ("Error: " ++ failure.context) ++ "\n" ++
    String.join (("Caused by:" :: causeLines failure.causes).map line)

/-- A run that ends with a failure. -/
def result (failure : Failure) : Result := { code := 1, stderr := failure.text }

end Failure

/-- The line before a conversion. -/
def heading (colours : Bool) (files : Nat) (profile : String) : String :=
  "Converting " ++ Style.bold.apply colours (Nat.repr files) ++ " " ++ plural files "file"
    ++ " with profile " ++ Style.bold.apply colours profile

/-- The line for a directory without requirements files. -/
def nothingFound (colours : Bool) (dir : Path) : String :=
  (Style.colour .yellow).apply colours "No requirements files found" ++ " below " ++ dir.text

/-- What is printed of the outcome of a file. If only failures count, the others are
left out. -/
def outcomeText (colours quiet : Bool) (file : Path) : Outcome → String
  | .converted graph =>
    if quiet then ""
    else
      let targets := graph.targets.size
      line ((Style.boldColour .green).apply colours "OK" ++ " " ++ file.text
        ++ " (" ++ Nat.repr targets ++ " " ++ plural targets "target" ++ ", "
        ++ graph.dialect.outputFile ++ ")")
  | .skipped existing =>
    if quiet then ""
    else
      line ((Style.boldColour .yellow).apply colours "SKIP" ++ " " ++ file.text
        ++ " (hand-written " ++ existing.text ++ ")")
  | .failed error =>
    line ((Style.boldColour .red).apply colours "FAIL" ++ " " ++ file.text)
      ++ line ("    " ++ Style.dim.apply colours error.message)

/-- The line after a conversion. -/
def summary (colours : Bool) (outcomes : List Outcome) : String :=
  let converted := (outcomes.filterMap Outcome.graph?).length
  let skipped := (outcomes.filterMap Outcome.existing?).length
  let failed := (outcomes.filterMap Outcome.error?).length
  let good := Style.boldColour .green
  let bad := Style.boldColour .red
  "Conversion result: "
    ++ (if failed = 0 then good.apply colours "OK" else bad.apply colours "FAILED")
    ++ " | " ++ good.apply colours (Nat.repr converted) ++ " converted, "
    ++ (Style.colour .yellow).apply colours (Nat.repr skipped) ++ " skipped, "
    ++ (if failed = 0 then Style.plain else bad).apply colours (Nat.repr failed) ++ " failed"

/-- The exit code of a conversion: whether a file failed. -/
def codeOf (outcomes : List Outcome) : Nat :=
  if outcomes.any fun outcome => outcome.error?.isSome then 1 else 0

/-- What a conversion prints for people. -/
def report (colours quiet : Bool) (profile : String) (outcomes : List (Path × Outcome)) :
    Result where
  code := codeOf (outcomes.map (·.2))
  stdout :=
    (if quiet then "" else line (heading colours outcomes.length profile))
      ++ String.join (outcomes.map fun (file, outcome) => outcomeText colours quiet file outcome)
      ++ "\n" ++ line (summary colours (outcomes.map (·.2)))

/-- What a conversion prints for programs. -/
def reportJson (outcomes : List Outcome) : Result where
  code := codeOf outcomes
  stdout := line (Json.array ((outcomes.filterMap Outcome.graph?).map Json.ofGraph)).pretty
  stderr := String.join ((outcomes.filterMap Outcome.error?).map fun error => line error.message)

/-- What is printed of a profile for people. -/
def profileText (colours : Bool) (profile : Profile) : String :=
  line (Style.bold.apply colours profile.name ++ " (library: " ++ profile.libraryFeature.name
      ++ ", application: " ++ profile.applicationFeature.name ++ ")")
    ++ String.join (profile.patternNames.map fun pattern => line ("    " ++ pattern))

/-- A profile for programs. -/
def profileJson (profile : Profile) : Json :=
  .object
    [("application", .text profile.applicationFeature.name),
     ("imperative_prefixes", .texts profile.imperativePrefixes),
     ("library", .text profile.libraryFeature.name),
     ("name", .text profile.name),
     ("patterns", .texts profile.patternNames)]

end Requirements.Command
