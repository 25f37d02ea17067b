import Requirements.Proofs.Readings
import Mathlib.Data.List.InsertIdx
import Mathlib.Data.List.TakeWhile

/-!
# Remarks

A line is a remark if it is blank or begins with `#` after its blanks. Wherever a remark is
written into a source, also between the parts of a logical line, the logical lines have the
same texts and the source makes the same file. Only numbers change: those of the logical
lines which begin below the remark grow by one, and so does the number that an error bears.
`ofSource_insertLine` puts this together from what an insertion does to the physical lines
(`physical_insertLine`), to the significant ones (`significant_insertLine`) and to those
that are joined from them (`logicalLines_insertLine`).
-/

namespace Requirements

namespace Text

/-- Trimming at the end leaves a solid first character. -/
theorem head?_trimEnd_cons {c : Char} (solid : isBlank c = false) (rest : List Char) :
    (trimEnd (c :: rest)).head? = some c := by
  rw [trimEnd, List.head?_reverse, List.reverse_cons, List.dropWhile_append]
  split <;> simp [solid]

/-- A trimmed text begins with the first character that is not blank. -/
theorem head?_trim (text : List Char) :
    (trim text).head? = text.find? fun c => !isBlank c := by
  have first : (text.find? fun c => !isBlank c) = (trimStart text).head? := by
    rw [List.find?_eq_head?_dropWhile_not, trimStart]
    simp only [Bool.not_not]
  rw [first, trim]
  cases left : trimStart text with
  | nil => rfl
  | cons c rest =>
    have solid : isBlank c = false := head?_trimStart_not_blank (by rw [left]; rfl)
    exact head?_trimEnd_cons solid rest

end Text

namespace Line

/-- A line is blank, or its first character that is not blank is `#`. -/
def IsRemark (line : List Char) : Prop :=
  ∀ c, (line.find? fun c => !Text.isBlank c) = some c → c = '#'

/-- The number of a line after one has been written below as many lines as the position
says. -/
def shift (position number : Nat) : Nat := if position < number then number + 1 else number

/-- A source with a line written into it, below as many of its lines as the position says. -/
def insertLine (source : String) (position : Nat) (line : String) : String :=
  .ofList (['\n'].intercalate ((physical source.toList).insertIdx position line.toList))

end Line

/-- A logical line of a source into which a line has been written. -/
def LogicalLine.shift (position : Nat) (line : LogicalLine) : LogicalLine :=
  { line with number := Line.shift position line.number }

/-- An error of a source into which a line has been written. -/
def ReadError.shift (position : Nat) : ReadError → ReadError
  | .line path number fault => .line path (Line.shift position number) fault
  | .unreadable path fault => .unreadable path fault

theorem ReadError.shift_eq (position : Nat) :
    ReadError.shift position = ReadError.renumber (Line.shift position) := by
  funext error
  cases error <;> rfl

namespace Line

theorem isSignificant_of_isRemark {line : List Char} (h : IsRemark line) :
    isSignificant (Text.trim line) = false := by
  rw [isSignificant, Text.head?_trim]
  cases first : line.find? fun c => !Text.isBlank c with
  | none => rfl
  | some c => simp [h c first]

/-- What is written into a source is one physical line of it. -/
theorem physical_insertLine {source : String} {position : Nat} {line : String}
    (inside : position ≤ (physical source.toList).length) (single : '\n' ∉ line.toList) :
    physical (insertLine source position line).toList =
      (physical source.toList).insertIdx position line.toList := by
  rw [insertLine, String.toList_ofList, physical, List.splitOn_intercalate]
  · intro piece member
    rcases (List.mem_insertIdx inside).1 member with rfl | old
    · exact single
    · exact not_mem_of_mem_physical old
  · refine List.ne_nil_of_length_pos ?_
    rw [List.length_insertIdx_of_le_length inside]
    exact Nat.succ_pos _

/-- All lines below a place are renumbered. -/
theorem zipIdx_below (base : Nat) (lines : List (List Char)) :
    lines.zipIdx (base + 2) = (lines.zipIdx (base + 1)).map (Prod.map id (shift base)) := by
  rw [List.zipIdx_succ]
  refine List.map_congr_left ?_
  rintro ⟨line, number⟩ member
  have below : base < number := (List.mk_mem_zipIdx_iff_le_and_getElem?_sub.1 member).1
  rw [Prod.map_apply, shift, if_pos below, id]

/-- A remark adds no significant line and renumbers those below it. -/
theorem significant_insertIdx {line : List Char} (remark : IsRemark line)
    {lines : List (List Char)} {position : Nat} (inside : position ≤ lines.length) (base : Nat) :
    ((lines.insertIdx position line).zipIdx (base + 1)).filterMap significant? =
      ((lines.zipIdx (base + 1)).filterMap significant?).map
        (Prod.map (shift (base + position)) id) := by
  induction position generalizing lines base with
  | zero =>
    have skipped : significant? (line, base + 1) = none := by
      rw [significant?, isSignificant_of_isRemark remark]
      rfl
    rw [List.insertIdx_zero, List.zipIdx_cons, List.filterMap_cons_none skipped, zipIdx_below,
      filterMap_significant?_map]
    rfl
  | succ position ih =>
    cases lines with
    | nil => cases inside
    | cons first rest =>
      have above : shift (base + (position + 1)) (base + 1) = base + 1 := by
        rw [shift, if_neg]
        omega
      have kept := significant?_map (shift (base + (position + 1))) (first, base + 1)
      rw [Prod.map_apply, above, id] at kept
      have later := ih (Nat.le_of_succ_le_succ inside) (base + 1)
      rw [Nat.add_assoc base 1 position, Nat.add_comm 1 position] at later
      rw [List.insertIdx_succ_cons, List.zipIdx_cons, List.zipIdx_cons]
      cases counted : significant? (first, base + 1) with
      | none => rw [List.filterMap_cons_none counted, List.filterMap_cons_none counted, later]
      | some entry =>
        rw [counted, Option.map_some, Option.some.injEq] at kept
        rw [List.filterMap_cons_some counted, List.filterMap_cons_some counted, List.map_cons,
          ← kept, later]

theorem significant_insertLine {source line : String} {position : Nat}
    (inside : position ≤ (physical source.toList).length) (single : '\n' ∉ line.toList)
    (remark : IsRemark line.toList) :
    significant (insertLine source position line).toList =
      (significant source.toList).map (Prod.map (shift position) id) := by
  have counted := significant_insertIdx remark inside 0
  simp only [Nat.zero_add] at counted
  rw [significant_eq, physical_insertLine inside single, counted, significant_eq]

/-- Only numbers change in the logical lines. -/
theorem logicalLines_insertLine {source line : String} {position : Nat}
    (inside : position ≤ (physical source.toList).length) (single : '\n' ∉ line.toList)
    (remark : IsRemark line.toList) :
    logicalLines (insertLine source position line) =
      (logicalLines source).map (LogicalLine.shift position) := by
  rw [logicalLines, significant_insertLine inside single remark]
  exact join_map (shift position) none _

end Line

namespace Reader

variable (position : Nat)

/-- The number of a line matters for the error alone. -/
theorem readLines_shift (reader : Reader) (lines : List LogicalLine) :
    reader.readLines (lines.map (LogicalLine.shift position)) =
      (reader.readLines lines).mapError (ReadError.shift position) := by
  have same := LogicalLine.map_reading_renumber (Line.shift position) lines
  rw [ReadError.shift_eq]
  exact readLines_renumber same reader

end Reader

/-- A remark is invisible. Wherever it is written into a source, it becomes one physical line
of it, the logical lines have the same texts, and what the source is read as is the same file
or the same error. The numbers of the logical lines that begin below it grow by one, and with
them the number of the error. -/
theorem File.ofSource_insertLine (path : Path) {source line : String} {position : Nat}
    (inside : position ≤ (Line.physical source.toList).length) (single : '\n' ∉ line.toList)
    (remark : Line.IsRemark line.toList) :
    Line.physical (Line.insertLine source position line).toList =
        (Line.physical source.toList).insertIdx position line.toList ∧
      logicalLines (Line.insertLine source position line) =
        (logicalLines source).map (LogicalLine.shift position) ∧
      File.ofSource path (Line.insertLine source position line) =
        (File.ofSource path source).mapError (ReadError.shift position) := by
  have lines := Line.logicalLines_insertLine inside single remark
  refine ⟨Line.physical_insertLine inside single, lines, ?_⟩
  have read (text : String) : File.ofSource path text =
      ((Reader.start path).readLines (logicalLines text)).map Reader.file := rfl
  rw [read, read, lines, Reader.readLines_shift]
  cases (Reader.start path).readLines (logicalLines source) <;> rfl

/-- The remark stands inside a logical line, which keeps its number. The fault is below it. -/
theorem File.ofSource_insertLine_continued :
    let path : Path := ⟨"Foo/cmt/requirements"⟩
    let source := "use \\\n Bar\nend_private\n"
    let remark := "  # more"
    let fault : LineFault := .unbalanced (.closeSection .internal)
    1 ≤ (Line.physical source.toList).length ∧ '\n' ∉ remark.toList ∧
      Line.IsRemark remark.toList ∧
      Line.insertLine source 1 remark = "use \\\n  # more\n Bar\nend_private\n" ∧
      logicalLines (Line.insertLine source 1 remark) = [⟨1, "use Bar"⟩, ⟨4, "end_private"⟩] ∧
      File.ofSource path source = .error (.line path 3 fault) ∧
      File.ofSource path (Line.insertLine source 1 remark) = .error (.line path 4 fault) := by
  intro path source remark fault
  have inside : 1 ≤ (Line.physical source.toList).length := by decide +kernel
  have single : '\n' ∉ remark.toList := by decide +kernel
  have isRemark : Line.IsRemark remark.toList := by
    intro c first
    have hash : (remark.toList.find? fun c => !Text.isBlank c) = some '#' := by decide +kernel
    exact Option.some.inj (first.symm.trans hash)
  have lines : logicalLines source = [⟨1, "use Bar"⟩, ⟨3, "end_private"⟩] := by decide +kernel
  have failed : File.ofSource path source = .error (.line path 3 fault) := by decide +kernel
  obtain ⟨-, lines', read⟩ := File.ofSource_insertLine path inside single isRemark
  rw [lines] at lines'
  rw [failed] at read
  exact ⟨inside, single, isRemark, by decide +kernel, lines', failed, read⟩

end Requirements
