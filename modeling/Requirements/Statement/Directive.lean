import Requirements.Statement.Basic

/-!
# Directives

The first word of a logical line is its directive. Each directive has one spelling,
and the table of directives holds each of them once, so that a word names at most
one. Five directives are known and have no meaning here.
-/

namespace Requirements

/-- A directive that is read over. -/
inductive IgnoredDirective where
  | branches
  | language
  | setupScript
  | setupStrategy
  | buildStrategy
  deriving DecidableEq, Repr

/-- The directives of a requirements file. -/
inductive Directive where
  | package
  | author
  | manager
  | version
  | use
  | setting (setting : Setting)
  | pattern
  | applyPattern
  | ignorePattern
  | tag
  | applyTag
  | excludeTag
  | target (kind : TargetKind)
  | document
  | includeDirs
  | includePaths
  | pathPattern (reverse : Bool)
  | makeFragment
  | openSection (visibility : Visibility)
  | closeSection (visibility : Visibility)
  | ignored (directive : IgnoredDirective)
  deriving DecidableEq, Repr

namespace Directive

/-- The spelling of a directive. -/
def word : Directive → String
  | .package => "package"
  | .author => "author"
  | .manager => "manager"
  | .version => "version"
  | .use => "use"
  | .setting .defineMacro => "macro"
  | .setting .appendMacro => "macro_append"
  | .setting .prependMacro => "macro_prepend"
  | .setting .removeMacro => "macro_remove"
  | .setting .setPath => "path"
  | .setting .appendPath => "path_append"
  | .setting .prependPath => "path_prepend"
  | .setting .removePath => "path_remove"
  | .setting .setVariable => "set"
  | .setting .appendVariable => "set_append"
  | .setting .removeVariable => "set_remove"
  | .setting .defineAlias => "alias"
  | .setting .defineAction => "action"
  | .pattern => "pattern"
  | .applyPattern => "apply_pattern"
  | .ignorePattern => "ignore_pattern"
  | .tag => "tag"
  | .applyTag => "apply_tag"
  | .excludeTag => "tag_exclude"
  | .target .library => "library"
  | .target .application => "application"
  | .document => "document"
  | .includeDirs => "include_dirs"
  | .includePaths => "include_path"
  | .pathPattern false => "cmtpath_pattern"
  | .pathPattern true => "cmtpath_pattern_reverse"
  | .makeFragment => "make_fragment"
  | .openSection .internal => "private"
  | .closeSection .internal => "end_private"
  | .openSection .exported => "public"
  | .closeSection .exported => "end_public"
  | .ignored .branches => "branches"
  | .ignored .language => "language"
  | .ignored .setupScript => "setup_script"
  | .ignored .setupStrategy => "setup_strategy"
  | .ignored .buildStrategy => "build_strategy"

/-- All directives. -/
def all : List Directive :=
  [.package, .author, .manager, .version, .use,
   .setting .defineMacro, .setting .appendMacro, .setting .prependMacro, .setting .removeMacro,
   .setting .setPath, .setting .appendPath, .setting .prependPath, .setting .removePath,
   .setting .setVariable, .setting .appendVariable, .setting .removeVariable,
   .setting .defineAlias, .setting .defineAction,
   .pattern, .applyPattern, .ignorePattern, .tag, .applyTag, .excludeTag,
   .target .library, .target .application, .document, .includeDirs, .includePaths,
   .pathPattern false, .pathPattern true, .makeFragment,
   .openSection .internal, .closeSection .internal,
   .openSection .exported, .closeSection .exported,
   .ignored .branches, .ignored .language, .ignored .setupScript,
   .ignored .setupStrategy, .ignored .buildStrategy]

/-- The directive that a word spells. -/
def ofWord? (word : String) : Option Directive := all.find? (·.word == word)

theorem mem_all (directive : Directive) : directive ∈ all := by
  cases directive with
  | setting s => cases s <;> decide
  | target k => cases k <;> decide
  | pathPattern r => cases r <;> decide
  | openSection v => cases v <;> decide
  | closeSection v => cases v <;> decide
  | ignored i => cases i <;> decide
  | _ => decide

/-- No two entries of the table are spelt alike. -/
theorem nodup_map_word_all : (all.map word).Nodup := by decide +kernel

/-- A word spells at most one directive. -/
theorem word_injective {a b : Directive} (h : a.word = b.word) : a = b := by
  have key : ∀ (l : List Directive), (l.map word).Nodup → a ∈ l → b ∈ l → a = b := by
    intro l
    induction l with
    | nil => intro _ ha; simp at ha
    | cons d l ih =>
      intro hnd ha hb
      obtain ⟨hd, hl⟩ := List.nodup_cons.1 hnd
      rcases List.mem_cons.1 ha with ha | ha <;> rcases List.mem_cons.1 hb with hb | hb
      · rw [ha, hb]
      · exact absurd (by rw [← ha, h]; exact List.mem_map_of_mem hb) hd
      · exact absurd (by rw [← hb, ← h]; exact List.mem_map_of_mem ha) hd
      · exact ih hl ha hb
  exact key all nodup_map_word_all (mem_all a) (mem_all b)

theorem ofWord?_eq_some_iff {text : String} {directive : Directive} :
    ofWord? text = some directive ↔ directive.word = text := by
  constructor
  · intro h
    simpa using List.find?_some h
  · intro h
    cases hf : ofWord? text with
    | none =>
      have := List.find?_eq_none.1 hf directive (mem_all directive)
      simp [h] at this
    | some found =>
      have hw : found.word = text := by simpa using List.find?_some hf
      rw [word_injective (hw.trans h.symm)]

@[simp] theorem ofWord?_word (directive : Directive) :
    ofWord? directive.word = some directive :=
  ofWord?_eq_some_iff.2 rfl

end Directive

/-- The directive that a statement is written with. -/
def Statement.directive : Statement → Directive
  | .package _ => .package
  | .author _ => .author
  | .manager _ => .manager
  | .version _ => .version
  | .use _ => .use
  | .setting s _ => .setting s
  | .pattern _ => .pattern
  | .applyPattern _ => .applyPattern
  | .ignorePattern _ => .ignorePattern
  | .tag _ _ => .tag
  | .applyTag _ => .applyTag
  | .excludeTag _ _ => .excludeTag
  | .target kind _ => .target kind
  | .document _ => .document
  | .includeDirs _ => .includeDirs
  | .includePaths _ => .includePaths
  | .pathPattern reverse _ => .pathPattern reverse
  | .makeFragment _ _ => .makeFragment
  | .openSection visibility => .openSection visibility
  | .closeSection visibility => .closeSection visibility

end Requirements
