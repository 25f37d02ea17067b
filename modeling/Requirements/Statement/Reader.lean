import Requirements.Statement.Directive

/-!
# Statements from words

Each directive says how the words after it are read. Words that it needs and does
not find are the only fault that can arise here. A switch is a word that starts
with a hyphen; one that stands before the name of a pattern, a tag or a document
generator changes places with it.
-/

namespace Requirements

/-- A word that a directive needs and did not get. -/
inductive Missing where
  | name
  | value
  | version
  | package
  | pattern
  | tag
  | target
  | generator
  | document
  | directories
  | path
  | command
  | fragment
  deriving DecidableEq, Repr

/-- What is missing, in the words of a message. -/
def Missing.text : Missing → String
  | .name => "name"
  | .value => "default value"
  | .version => "version"
  | .package => "package name"
  | .pattern => "pattern name"
  | .tag => "tag name"
  | .target => "target name"
  | .generator => "generator"
  | .document => "document name"
  | .directories => "directories"
  | .path => "path"
  | .command => "command"
  | .fragment => "fragment name"

/-- Whether a word is a switch. -/
def isSwitch (word : String) : Bool := Text.startsWith word "-"

namespace Statement

/-- Move a switch that stands before a name behind it. -/
def swapLeadingSwitch : List String → List String
  | first :: second :: rest =>
    if isSwitch first then second :: first :: rest else first :: second :: rest
  | words => words

/-- The first word and those after it. -/
def required (missing : Missing) : List String → Except Missing (String × List String)
  | [] => .error missing
  | word :: rest => .ok (word, rest)

/-- All words, of which there must be one. -/
def requiredAll (missing : Missing) : List String → Except Missing (List String)
  | [] => .error missing
  | words => .ok words

/-- A name, the switches right after it, and the words after those. -/
def readApplication (missing : Missing) (words : List String) : Except Missing Application := do
  let (name, rest) ← required missing (swapLeadingSwitch words)
  return ⟨name, rest.takeWhile isSwitch, rest.dropWhile isSwitch⟩

/-- A name, its default value, and pairs of a tag expression and a value. -/
def readConditional (words : List String) : Except Missing Conditional := do
  let (name, rest) ← required .name words
  let (text, pairs) ← required .value rest
  return (Conditional.mk name text []).setPairs pairs

/-- Sort the words after a package name: the first two that are no switches are
the version and the path, all others are kept as switches. -/
def sortUseWords : List String → Use → Use
  | [], dependency => dependency
  | word :: rest, dependency =>
    let dependency :=
      if isSwitch word || dependency.path.isSome then
        { dependency with switches := dependency.switches ++ [word] }
      else if dependency.version.isSome then { dependency with path := some word }
      else { dependency with version := some word }
    sortUseWords rest dependency

/-- A package name and the words that say which version of it is used, and how. -/
def readUse (visibility : Visibility) (words : List String) : Except Missing Use := do
  let (name, rest) ← required .package words
  return sortUseWords rest ⟨name, none, none, [], visibility⟩

/-- File one word after the names of a document. -/
def addDocumentWord (document : Document) (word : String) : Document :=
  match Text.afterLead? word "-group=" with
  | some group => { document with group := some group }
  | none =>
    match Text.afterLead? word "-s=" with
    | some dir => { document with sourceDir := some dir }
    | none =>
      if isSwitch word then { document with switches := document.switches ++ [word] }
      else { document with sources := document.sources ++ [word] }

/-- A generator, a document name, and the words that belong to the document. -/
def readDocument (words : List String) : Except Missing Document := do
  let (generator, rest) ← required .generator (swapLeadingSwitch words)
  let (name, rest) ← required .document rest
  return rest.foldl addDocumentWord { generator, name }

/-- A target name and its source words. -/
def readTarget (words : List String) : Except Missing TargetDecl := do
  let (name, sources) ← required .target words
  return ⟨name, sources⟩

/-- Words joined by single spaces. -/
def joinWords (words : List String) : String := String.intercalate " " words

end Statement

/-- The statement that a directive and the words after it make, in a section of the
given visibility. A directive without a meaning makes none. -/
def Directive.read (directive : Directive) (visibility : Visibility) (words : List String) :
    Except Missing (Option Statement) :=
  match directive with
  | .package => do
    let (name, _) ← Statement.required .name words
    return some (.package name)
  | .author => do return some (.author (Statement.joinWords (← Statement.requiredAll .name words)))
  | .manager => do return some (.manager (Statement.joinWords (← Statement.requiredAll .name words)))
  | .version => do
    let (text, _) ← Statement.required .version words
    return some (.version text)
  | .use => do return some (.use (← Statement.readUse visibility words))
  | .setting s => do return some (.setting s (← Statement.readConditional words))
  | .pattern => do
    let ⟨name, switches, args⟩ ← Statement.readApplication .pattern words
    return some (.pattern ⟨name, switches, Statement.joinWords args⟩)
  | .applyPattern => do return some (.applyPattern (← Statement.readApplication .pattern words))
  | .ignorePattern => do
    let (name, _) ← Statement.required .pattern words
    return some (.ignorePattern name)
  | .tag => do
    let (name, content) ← Statement.required .tag words
    return some (.tag name content)
  | .applyTag => do return some (.applyTag (← Statement.readApplication .tag words))
  | .excludeTag => do
    let (name, excluded) ← Statement.required .tag words
    return some (.excludeTag name excluded)
  | .target kind => do return some (.target kind (← Statement.readTarget words))
  | .document => do return some (.document (← Statement.readDocument words))
  | .includeDirs => do return some (.includeDirs (← Statement.requiredAll .directories words))
  | .includePaths => do return some (.includePaths (← Statement.requiredAll .path words))
  | .pathPattern reverse => do
    return some (.pathPattern reverse (← Statement.requiredAll .command words))
  | .makeFragment => do
    let (name, switches) ← Statement.required .fragment words
    return some (.makeFragment name switches)
  | .openSection visibility => .ok (some (.openSection visibility))
  | .closeSection visibility => .ok (some (.closeSection visibility))
  | .ignored _ => .ok none

namespace Statement

theorem swapLeadingSwitch_switch {switch : String} (h : isSwitch switch = true) (name : String)
    (rest : List String) : swapLeadingSwitch (switch :: name :: rest) = name :: switch :: rest := by
  simp [swapLeadingSwitch, h]

theorem swapLeadingSwitch_name {name : String} (h : isSwitch name = false) (rest : List String) :
    swapLeadingSwitch (name :: rest) = name :: rest := by
  cases rest <;> simp [swapLeadingSwitch, h]

/-- Swapping keeps the words. -/
theorem swapLeadingSwitch_perm (words : List String) : (swapLeadingSwitch words).Perm words := by
  unfold swapLeadingSwitch
  split
  · split
    · exact List.Perm.swap ..
    · exact List.Perm.refl _
  · exact List.Perm.refl _

end Statement

end Requirements
