import Requirements.Config.Basic
import Requirements.Conversion
import Requirements.Proofs.Sentinels
import Mathlib.Data.List.Find

/-!
# Converting generated files again

A generated file begins with the sentinel, byte for byte, and it is replaced when its package is
converted again. Before the sentinel is looked for, the blanks in front of a file are dropped, and
so are those of a sentinel that begins with some. Hence `convert_generated` has two cases. A
sentinel that does not begin with a blank is found whatever comes behind it, and the package is
converted. One that does is found nowhere, though a configuration may have it, and the first output
file that is there makes the package be skipped: `convert_generated_indented`.
-/

namespace Requirements

namespace OutputFiles

variable {outputs : OutputFiles} {bytes : List UInt8} {tree : FileTree}

/-- The bytes of a file begin with those of the sentinel. -/
def Begun (outputs : OutputFiles) (bytes : List UInt8) : Prop :=
  Text.Utf8.encode outputs.sentinel <+: bytes

theorem Begun.marked (begun : outputs.Begun bytes) : outputs.Marked bytes := by
  have fits : (Text.Utf8.encode outputs.sentinel).length ≤ max 64 outputs.sentinel.utf8ByteSize := by
    rw [Text.Utf8.length_encode]
    exact Nat.le_max_right ..
  obtain ⟨rest, split⟩ := List.prefix_take_iff.2 ⟨begun, fits⟩
  exact ⟨"", rest, by simp, by rw [← split, ← Text.Utf8.encode_append, String.empty_append]⟩

/-- What comes behind the sentinel makes no difference. -/
theorem Begun.isGenerated_iff (begun : outputs.Begun bytes) :
    outputs.isGenerated bytes = true ↔ outputs.Solid :=
  ⟨solid_of_isGenerated, fun solid => isGenerated_of_marked solid begun.marked⟩

theorem isHandWritten_of_begun {path : Path}
    (begun : ∀ bytes, tree.bytes path = .ok bytes → outputs.Begun bytes) :
    outputs.isHandWritten tree path = (tree.isFile path && !decide outputs.Solid) := by
  rw [isHandWritten, FileTree.isFile]
  cases there : tree.bytes path with
  | error fault => rfl
  | ok bytes =>
    have same : outputs.isGenerated bytes = decide outputs.Solid := by
      rw [Bool.eq_iff_iff, decide_eq_true_iff]
      exact (begun bytes there).isGenerated_iff
    change (!outputs.isGenerated bytes) = (true && !decide outputs.Solid)
    rw [same, Bool.true_and]

theorem handWritten?_of_begun {dir : Path}
    (begun : ∀ path ∈ outputs.candidates dir, ∀ bytes,
      tree.bytes path = .ok bytes → outputs.Begun bytes) :
    outputs.handWritten? tree dir =
      if outputs.Solid then none else (outputs.candidates dir).find? tree.isFile := by
  have same : outputs.handWritten? tree dir =
      (outputs.candidates dir).find? fun path => tree.isFile path && !decide outputs.Solid :=
    List.find?_congr fun path member => isHandWritten_of_begun (begun path member)
  rw [same]
  split <;> simp [*]

end OutputFiles

namespace Conversion

/-- What becomes of a requirements file whose package is not skipped. -/
def translated (conversion : Conversion) (file : Path) : Outcome :=
  match Graph.load conversion.profile conversion.tree file with
  | .ok graph => .converted graph
  | .error error => .failed error

/-- The places where a package may have output files. -/
def outputPaths (conversion : Conversion) (file : Path) : List Path :=
  (FileTree.packageDir? file).toList.flatMap conversion.outputs.candidates

theorem convert_eq (conversion : Conversion) (file : Path) :
    conversion.convert file =
      (conversion.handWritten? file).elim (conversion.translated file) .skipped := by
  rw [convert]
  cases conversion.handWritten? file <;> rfl

/-- If each output file that a package has begins with the sentinel, the package is converted, as
long as the sentinel does not begin with a blank. Otherwise none of them is taken for a generated
one, and the first makes the package be skipped. -/
theorem convert_generated (conversion : Conversion) (file : Path)
    (begun : ∀ path ∈ conversion.outputPaths file, ∀ bytes,
      conversion.tree.bytes path = .ok bytes →
        Text.Utf8.encode conversion.outputs.sentinel <+: bytes) :
    (∀ rest, conversion.outputs.isGenerated
        (Text.Utf8.encode conversion.outputs.sentinel ++ rest) = true ↔ conversion.outputs.Solid) ∧
    conversion.convert file =
      if conversion.outputs.Solid then conversion.translated file
      else ((conversion.outputPaths file).find? conversion.tree.isFile).elim
        (conversion.translated file) .skipped := by
  refine ⟨fun rest => OutputFiles.Begun.isGenerated_iff (List.prefix_append ..), ?_⟩
  rw [convert_eq, handWritten?]
  unfold outputPaths at begun ⊢
  generalize FileTree.packageDir? file = found at begun ⊢
  cases found with
  | none => simp
  | some dir =>
    rw [Option.toList_some, List.flatMap_singleton] at begun ⊢
    rw [Option.bind_some, OutputFiles.handWritten?_of_begun begun]
    split <;> rfl

/-- A sentinel may be longer than the header and end with blanks, and what follows it need not be
text. -/
theorem convert_generated_long :
    let sentinel := "## généré à partir du fichier requirements, ne pas modifier à la main \t"
    let config : Config := { outputs := some { sentinel := some sentinel } }
    let written := sentinel.toList.flatMap String.utf8EncodeChar
    let tree := FileTree.ofEntries ["w"]
      [(⟨"p/cmt/requirements"⟩, some [0x23]), (⟨"p/hscript.yml"⟩, some (written ++ [0xC3, 0x00])),
        (⟨"p/wscript"⟩, some written)]
    let conversion : Conversion := { tree, profile := .atlasoff, outputs := config.outputFiles }
    let file : Path := ⟨"p/cmt/requirements"⟩
    config.fault? Profile.allNames = none ∧
      (∀ path ∈ conversion.outputPaths file, ∀ bytes, tree.bytes path = .ok bytes →
        Text.Utf8.encode sentinel <+: bytes) ∧
      conversion.convert file = conversion.translated file := by
  intro sentinel config written tree conversion file
  have begun : ∀ path ∈ conversion.outputPaths file, ∀ bytes, tree.bytes path = .ok bytes →
      Text.Utf8.encode sentinel <+: bytes := by
    have paths : conversion.outputPaths file = [⟨"p/hscript.yml"⟩, ⟨"p/wscript"⟩] := by
      decide +kernel
    have first : tree.bytes ⟨"p/hscript.yml"⟩ = .ok (written ++ [0xC3, 0x00]) := by rfl
    have second : tree.bytes ⟨"p/wscript"⟩ = .ok written := by rfl
    intro path member bytes there
    rw [Text.Utf8.encode_eq]
    rw [paths, List.mem_cons, List.mem_singleton] at member
    rcases member with rfl | rfl
    · have same : written ++ [0xC3, 0x00] = bytes := Except.ok.inj (first.symm.trans there)
      exact same ▸ List.prefix_append ..
    · have same : written = bytes := Except.ok.inj (second.symm.trans there)
      exact same ▸ List.prefix_rfl
  have solid : conversion.outputs.Solid := by decide +kernel
  exact ⟨by decide +kernel, begun,
    (convert_generated conversion file begun).2.trans (if_pos solid)⟩

/-- The sentinel of this configuration begins with a blank, and so does the file. -/
theorem convert_generated_indented :
    let config : Config := { outputs := some { sentinel := some " ## gen" } }
    let bytes : List UInt8 := [0x20, 0x23, 0x23, 0x20, 0x67, 0x65, 0x6E, 0x0A]
    let tree := FileTree.ofEntries ["w"]
      [(⟨"p/cmt/requirements"⟩, some [0x23]), (⟨"p/wscript"⟩, some bytes)]
    let conversion : Conversion := { tree, profile := .atlasoff, outputs := config.outputFiles }
    config.fault? Profile.allNames = none ∧ Text.Utf8.encode config.sentinel <+: bytes ∧
      tree.bytes ⟨"p/wscript"⟩ = .ok bytes ∧ config.outputFiles.isGenerated bytes = false ∧
      conversion.convert ⟨"p/cmt/requirements"⟩ = .skipped ⟨"p/wscript"⟩ := by
  intro config bytes tree conversion
  refine ⟨by decide +kernel, ?_, by rfl, by decide +kernel, by decide +kernel⟩
  rw [Text.Utf8.encode_eq]
  decide +kernel

end Conversion

end Requirements
