import Requirements.File.Reader

/-!
# What is read of a source

A source is read through its logical lines, and of a logical line only its number and its
tokens are read. The number comes from the place in the source and takes no part in how lines
are joined (`join_map`). So two sources whose logical lines have the same tokens are read as
the same file or end in the same fault, and the number that is reported is the only thing in
which they can differ (`readLines_renumber`).
-/

namespace Requirements

/-- A logical line with another number. -/
def LogicalLine.renumber (renumber : Nat → Nat) (line : LogicalLine) : LogicalLine :=
  { line with number := renumber line.number }

/-- What is read of a logical line. -/
def LogicalLine.reading (line : LogicalLine) : Nat × List String :=
  (line.number, tokenize line.text)

/-- An error with another line number. -/
def ReadError.renumber (renumber : Nat → Nat) : ReadError → ReadError
  | .line path number fault => .line path (renumber number) fault
  | .unreadable path fault => .unreadable path fault

theorem LogicalLine.map_reading_renumber (renumber : Nat → Nat) (lines : List LogicalLine) :
    (lines.map (LogicalLine.renumber renumber)).map LogicalLine.reading =
      (lines.map LogicalLine.reading).map (Prod.map renumber id) := by
  rw [List.map_map, List.map_map]
  rfl

namespace Line

theorem not_mem_of_mem_physical {source line : List Char} (h : line ∈ physical source) :
    '\n' ∉ line := Text.not_mem_of_mem_splitOn h

/-- A physical line with its number, if it counts. -/
def significant? (entry : List Char × Nat) : Option (Nat × List Char) :=
  let line := Text.trim entry.1
  if isSignificant line then some (entry.2, line) else none

theorem significant_eq (source : List Char) :
    significant source = ((physical source).zipIdx 1).filterMap significant? := rfl

theorem significant?_map (renumber : Nat → Nat) (entry : List Char × Nat) :
    significant? (entry.map id renumber) = (significant? entry).map (Prod.map renumber id) := by
  obtain ⟨line, number⟩ := entry
  cases counts : isSignificant (Text.trim line) <;> simp [significant?, counts]

theorem filterMap_significant?_map (renumber : Nat → Nat) (entries : List (List Char × Nat)) :
    (entries.map (Prod.map id renumber)).filterMap significant? =
      (entries.filterMap significant?).map (Prod.map renumber id) := by
  rw [List.filterMap_map, List.map_filterMap]
  exact congrArg (List.filterMap · entries) (funext (significant?_map renumber))

/-- How a logical line proceeds after one of its parts: with the next significant line, or not
at all. -/
def proceed (continued : Bool) (start : Nat) (text : List Char)
    (rest : List (Nat × List Char)) : List LogicalLine :=
  if continued then join (some (start, text)) rest else emit start text ++ join none rest

theorem proceed_true (start : Nat) (text : List Char) (rest : List (Nat × List Char)) :
    proceed true start text rest = join (some (start, text)) rest := rfl

theorem proceed_false (start : Nat) (text : List Char) (rest : List (Nat × List Char)) :
    proceed false start text rest = emit start text ++ join none rest := rfl

theorem join_cons (pending : Option (Nat × List Char)) (number : Nat) (line : List Char)
    (rest : List (Nat × List Char)) :
    join pending ((number, line) :: rest) =
      proceed (isContinued line) (pending.getD (number, [])).1
        (glue (pending.getD (number, [])).2 (body line)) rest := by
  rw [join]
  rfl

theorem emit_renumber (renumber : Nat → Nat) (number : Nat) (text : List Char) :
    emit (renumber number) text = (emit number text).map (LogicalLine.renumber renumber) := by
  rw [emit, emit]
  split <;> rfl

/-- How lines are joined does not depend on their numbers. -/
theorem join_map (renumber : Nat → Nat) (pending : Option (Nat × List Char))
    (lines : List (Nat × List Char)) :
    join (pending.map (Prod.map renumber id)) (lines.map (Prod.map renumber id)) =
      (join pending lines).map (LogicalLine.renumber renumber) := by
  induction lines generalizing pending with
  | nil =>
    cases pending with
    | none => rfl
    | some held => exact emit_renumber renumber held.1 held.2
  | cons first rest ih =>
    obtain ⟨number, line⟩ := first
    have held : (pending.map (Prod.map renumber id)).getD (renumber number, []) =
        (pending.getD (number, [])).map renumber id := by
      cases pending <;> rfl
    rw [List.map_cons, Prod.map_apply, id, join_cons, join_cons, held, Prod.map_fst, Prod.map_snd]
    cases isContinued line with
    | true => exact ih (some (_, _))
    | false =>
      rw [id, proceed_false, proceed_false, List.map_append, emit_renumber, ← ih none,
        Option.map_none]

theorem proceed_map (renumber : Nat → Nat) (continued : Bool) (start : Nat) (text : List Char)
    (rest : List (Nat × List Char)) :
    proceed continued (renumber start) text (rest.map (Prod.map renumber id)) =
      (proceed continued start text rest).map (LogicalLine.renumber renumber) := by
  cases continued with
  | true => exact join_map renumber (some (start, text)) rest
  | false =>
    rw [proceed_false, proceed_false, List.map_append, emit_renumber, ← join_map, Option.map_none]

end Line

namespace Reader

variable {renumber : Nat → Nat}

theorem readLine_renumber {line other : LogicalLine}
    (same : other.reading = line.reading.map renumber id) (reader : Reader) :
    reader.readLine other = (reader.readLine line).mapError (ReadError.renumber renumber) := by
  obtain ⟨number, tokens⟩ := Prod.mk.inj same
  rw [readLine_eq, readLine_eq, number, tokens, id]
  cases reader.after (tokenize line.text) <;> rfl

/-- Lines with the same tokens are read alike. Their numbers matter for the error alone. -/
theorem readLines_renumber {lines others : List LogicalLine}
    (same : others.map LogicalLine.reading =
      (lines.map LogicalLine.reading).map (Prod.map renumber id)) (reader : Reader) :
    reader.readLines others = (reader.readLines lines).mapError (ReadError.renumber renumber) := by
  induction lines generalizing others reader with
  | nil =>
    obtain rfl : others = [] := by simpa using same
    rfl
  | cons line lines ih =>
    cases others with
    | nil => cases same
    | cons other others =>
      obtain ⟨first, rest⟩ := List.cons.inj same
      rw [readLines, readLines, readLine_renumber first]
      cases reader.readLine line with
      | error error => rfl
      | ok next => exact ih rest next

theorem readSource_renumber {source other : String}
    (same : (logicalLines other).map LogicalLine.reading =
      ((logicalLines source).map LogicalLine.reading).map (Prod.map renumber id))
    (reader : Reader) :
    reader.readSource other =
      (reader.readSource source).mapError (ReadError.renumber renumber) := by
  rw [readSource, readSource, readLines_renumber same]
  cases reader.readLines (logicalLines source) <;> rfl

end Reader

end Requirements
