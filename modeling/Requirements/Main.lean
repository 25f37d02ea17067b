import Requirements.Command.Run

/-!
# The program

The outermost layer takes the arguments, the environment and the files that the run
looks at, and prints what the run leaves. What the run looks at and what it prints is
decided elsewhere.
-/

namespace Requirements.Program

/-- The variables that a run looks at. -/
def variableNames : List String :=
  [Config.profileVariable, SettingFault.jobsVariable, "NO_COLOR", "CLICOLOR", "CLICOLOR_FORCE"]

/-- Take the environment. -/
def environment : IO Environment := do
  let values ← variableNames.filterMapM fun name => do
    return (← IO.getEnv name).map fun value => (name, value)
  return { entries := values }

/-- Add what stands at a path to a tree. -/
def addPath (tree : FileTree) (path : Path) : IO FileTree := do
  try
    let real ← IO.FS.realPath path.text
    if ← real.isDir then return tree.add path none
    else return tree.add path (some (← IO.FS.readBinFile path.text).toList)
  catch _ => return tree

/-- The files below a directory. A directory that leads back to one above it is left
out, and so is one that cannot be listed. -/
partial def filesBelow (above : List String) (dir : Path) : IO (List Path) := do
  try
    let real ← IO.FS.realPath dir.text
    let name := toString real
    if name ∈ above then return []
    let nested ← (← real.readDir).toList.mapM fun item => do
      let path := dir.join item.fileName
      if ← item.path.isDir then filesBelow (name :: above) path else return [path]
    return nested.flatten
  catch _ => return []

/-- Take the files that a request looks at. -/
def snapshot (env : Environment) (request : Command.Request) : IO FileTree := do
  let cwd := Path.names ⟨toString (← IO.currentDir)⟩
  let tree ← request.files.foldlM addPath (.empty cwd)
  let tree ← match request.root? with
    | none => pure tree
    | some root => do
      let tree ← addPath tree root
      let found ← filesBelow [] root
      (found.filter fun path => path.fileName? = some FileTree.requirementsName).foldlM addPath tree
  (request.outputFiles env tree).foldlM addPath tree

/-- Run a command line and give its exit code. -/
def run (arguments : List String) : IO UInt32 := do
  let env ← environment
  let tree ← match Command.Request.ofArguments arguments with
    | .ok request => snapshot env request
    | .error _ => pure (.empty [])
  let stdout ← IO.getStdout
  let result := Command.run env (← stdout.isTty) tree arguments
  stdout.putStr result.stdout
  (← IO.getStderr).putStr result.stderr
  return UInt32.ofNat result.code

end Requirements.Program

def main (arguments : List String) : IO UInt32 := Requirements.Program.run arguments
