import Requirements.Text.Piece

/-!
# Library names in flags

A linker flag `-lname` names a library, and so does a reference `$(name)` to a
variable, which build files write with braces. The references that are turned are
those whose parentheses hold no parenthesis between them.
-/

namespace Requirements.Reference

/-- The first parenthesis of a text. -/
def firstParen (text : List Char) : Option Char := text.find? fun c => c == '(' || c == ')'

/-- Turn the parentheses of references into braces. The first argument tells whether
the next closing parenthesis belongs to a reference. -/
def toBraces : Bool → List Char → List Char
  | _, [] => []
  | inside, '$' :: '(' :: text =>
    if firstParen text = some ')' then '$' :: '\x7b' :: toBraces true text
    else '$' :: '(' :: toBraces inside text
  | true, ')' :: text => '\x7d' :: toBraces false text
  | inside, c :: text => c :: toBraces inside text

/-- The library that a word of a linker flag names. -/
def ofLinkWord (word : String) : String :=
  .ofList (toBraces false (Text.dropLead ['-', 'l'] word.toList))

/-- Turning parentheses changes no length. -/
theorem length_toBraces (inside : Bool) (text : List Char) :
    (toBraces inside text).length = text.length := by
  fun_induction toBraces inside text <;> simp_all

/-- Irregular spellings of library names, with the regular ones. -/
def irregular : List (String × String) :=
  [("-$\x7bboost_libsuffix\x7d", ""), ("boost_", "boost-")]

/-- Write a library name regularly. -/
def regular (library : String) : String :=
  .ofList (irregular.foldl
    (fun text (old, new) => Text.replaceAll old.toList new.toList text) library.toList)

/-- The last name of a package path; slashes at its end do not count. -/
def baseName (package : String) : String :=
  .ofList (((Text.dropTrailing '/' package.toList).splitOn '/').getLast?.getD [])

end Requirements.Reference
