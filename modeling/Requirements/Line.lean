import Requirements.Text.Words

/-!
# Logical lines

A physical line is significant unless it is blank or its first character that is
not blank is `#`. A significant line that ends in an odd number of backslashes is
continued: its last backslash is dropped, and the next significant line belongs to
the same logical line. The texts of the parts are joined by single spaces. A
logical line bears the number of the physical line on which it starts.
-/

namespace Requirements

/-- A logical line: the number of its first physical line, from one, and its text. -/
structure LogicalLine where
  number : Nat
  text : String
  deriving DecidableEq, Repr

namespace Line

/-- The physical lines of a source. A carriage return at the end of one is blank
and takes no part in what follows. -/
def physical (source : List Char) : List (List Char) := source.splitOn '\n'

/-- Whether a trimmed line counts. -/
def isSignificant (line : List Char) : Bool :=
  match line.head? with
  | none => false
  | some c => c != '#'

/-- The significant lines, trimmed, with their numbers. -/
def significant (source : List Char) : List (Nat × List Char) :=
  ((physical source).zipIdx 1).filterMap fun (line, number) =>
    let line := Text.trim line
    if isSignificant line then some (number, line) else none

/-- Whether a line ends in an odd number of backslashes. -/
def isContinued (line : List Char) : Bool :=
  (line.reverse.takeWhile (· == '\\')).length % 2 == 1

/-- The text that a line contributes: all of it, unless it is continued. -/
def body (line : List Char) : List Char :=
  if isContinued line then Text.trimEnd line.dropLast else line

/-- Two texts with a space between them, or the other one if one is empty. -/
def glue (text more : List Char) : List Char :=
  if more.isEmpty then text
  else if text.isEmpty then more
  else text ++ ' ' :: more

/-- A line that ends here, if anything was written on it. -/
def emit (number : Nat) (text : List Char) : List LogicalLine :=
  if text.isEmpty then [] else [⟨number, .ofList text⟩]

/-- Join significant lines. The first argument is the line that is being continued. -/
def join : Option (Nat × List Char) → List (Nat × List Char) → List LogicalLine
  | none, [] => []
  | some (start, text), [] => emit start text
  | pending, (number, line) :: rest =>
    let (start, text) := pending.getD (number, [])
    let text := glue text (body line)
    if isContinued line then join (some (start, text)) rest
    else emit start text ++ join none rest

end Line

/-- The logical lines of a source. -/
def logicalLines (source : String) : List LogicalLine :=
  Line.join none (Line.significant source.toList)

namespace Line

@[simp] theorem glue_nil_right (text : List Char) : glue text [] = text := by
  simp [glue]

@[simp] theorem glue_nil_left (more : List Char) : glue [] more = more := by
  cases more <;> simp [glue]

theorem body_of_not_continued {line : List Char} (h : isContinued line = false) :
    body line = line := by
  simp [body, h]

theorem text_ne_empty_of_mem_emit {number : Nat} {text : List Char} {line : LogicalLine}
    (h : line ∈ emit number text) : line.text ≠ "" := by
  unfold emit at h
  split at h
  · simp at h
  · rename_i hne
    obtain rfl := List.mem_singleton.1 h
    intro hempty
    apply hne
    rw [← String.toList_inj] at hempty
    simp_all

/-- No logical line is empty. -/
theorem text_ne_empty_of_mem_join {pending : Option (Nat × List Char)}
    {lines : List (Nat × List Char)} {line : LogicalLine} (h : line ∈ join pending lines) :
    line.text ≠ "" := by
  induction lines generalizing pending with
  | nil =>
    cases pending with
    | none => simp [join] at h
    | some p => exact text_ne_empty_of_mem_emit h
  | cons p rest ih =>
    unfold join at h
    simp only at h
    split at h
    · exact ih h
    · rcases List.mem_append.1 h with h | h
      · exact text_ne_empty_of_mem_emit h
      · exact ih h

end Line

end Requirements
