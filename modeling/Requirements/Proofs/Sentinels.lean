import Requirements.OutputFiles
import Requirements.Proofs.Decoding

/-!
# Which output files are generated

Whether a file was generated is decided on a text, which is decoded from as many bytes as the
sentinel needs, and at least from those of a short header; where these are cut and whether they
are a text at all is left open. Still the answer is about bytes: `isGenerated_iff` says that it is
yes exactly if blanks and the complete sentinel come first, byte for byte. `handWritten?_spec`
says so of the output files of a package, of which none is taken for a generated one by mistake.
-/

namespace Requirements

namespace OutputFiles

variable {outputs : OutputFiles} {bytes : List UInt8}

/-- The bytes that are looked at are those of some blanks, or of none, and right behind them those
of the complete sentinel. -/
def Marked (outputs : OutputFiles) (bytes : List UInt8) : Prop :=
  ∃ (blanks : String) (rest : List UInt8), (∀ c ∈ blanks.toList, Text.isBlank c = true) ∧
    bytes.take (max 64 outputs.sentinel.utf8ByteSize) =
      Text.Utf8.encode blanks ++ Text.Utf8.encode outputs.sentinel ++ rest

/-- The sentinel does not begin with a blank. -/
def Solid (outputs : OutputFiles) : Prop :=
  ∀ c, outputs.sentinel.toList.head? = some c → Text.isBlank c = false

instance (outputs : OutputFiles) : Decidable outputs.Solid :=
  decidable_of_iff (outputs.sentinel.toList.head?.all (fun c => !Text.isBlank c) = true) <| by
    simp only [Option.all_eq_true, Bool.not_eq_true', Solid]

theorem isGenerated_of_marked (solid : outputs.Solid) (marked : outputs.Marked bytes) :
    outputs.isGenerated bytes = true := by
  obtain ⟨blanks, rest, blank, split⟩ := marked
  have header : outputs.header bytes = _ := split
  rw [isGenerated, header, ← Text.Utf8.encode_append, Text.Utf8.decodeLenient_encode_append,
    String.toList_append, List.append_assoc, Text.trimStart, List.dropWhile_append_of_pos blank,
    List.isPrefixOf_iff_prefix]
  cases letters : outputs.sentinel.toList with
  | nil => exact List.nil_prefix
  | cons c others =>
    have first : Text.isBlank c = false := solid c (by rw [letters]; rfl)
    rw [List.cons_append, List.dropWhile_cons_of_neg (by simp [first])]
    exact List.prefix_append (c :: others) _

/-- What blanks have been dropped from does not begin with one. -/
theorem solid_of_isGenerated (generated : outputs.isGenerated bytes = true) : outputs.Solid := by
  rw [isGenerated, List.isPrefixOf_iff_prefix] at generated
  obtain ⟨left, trimmed⟩ := generated
  intro c first
  have front : (Text.trimStart (Text.Utf8.decodeLenient (outputs.header bytes))).head? = some c := by
    rw [← trimmed, List.head?_append, first]
    rfl
  exact Text.head?_trimStart_not_blank front

/-- The answer is about bytes if no character of the sentinel can stand for a fault. -/
theorem isGenerated_iff (plain : '\uFFFD' ∉ outputs.sentinel.toList) :
    outputs.isGenerated bytes = true ↔ outputs.Solid ∧ outputs.Marked bytes := by
  refine ⟨fun generated => ⟨solid_of_isGenerated generated, ?_⟩,
    fun ⟨solid, marked⟩ => isGenerated_of_marked solid marked⟩
  rw [isGenerated, List.isPrefixOf_iff_prefix] at generated
  obtain ⟨left, trimmed⟩ := generated
  generalize text : Text.Utf8.decodeLenient (outputs.header bytes) = decoded at trimmed
  have blank : ∀ c ∈ decoded.takeWhile Text.isBlank, Text.isBlank c = true :=
    List.all_eq_true.1 List.all_takeWhile
  have split : decoded = (String.ofList (decoded.takeWhile Text.isBlank) ++
      outputs.sentinel).toList ++ left := by
    rw [String.toList_append, String.toList_ofList, List.append_assoc, trimmed]
    exact List.takeWhile_append_dropWhile.symm
  have plain' : '\uFFFD' ∉ (String.ofList (decoded.takeWhile Text.isBlank) ++
      outputs.sentinel).toList := by
    rw [String.toList_append, String.toList_ofList, List.mem_append, not_or]
    exact ⟨fun member => absurd (blank _ member) (by decide), plain⟩
  obtain ⟨rest, header, -⟩ :=
    (Text.Utf8.decodeLenient_eq_append_iff plain').1 (text.trans split)
  rw [Text.Utf8.encode_append] at header
  exact ⟨.ofList (decoded.takeWhile Text.isBlank), rest, by rwa [String.toList_ofList], header⟩

theorem isHandWritten_iff {tree : FileTree} {path : Path} :
    outputs.isHandWritten tree path = true ↔
      ∃ bytes, tree.bytes path = .ok bytes ∧ outputs.isGenerated bytes = false := by
  rw [isHandWritten]
  cases tree.bytes path <;> simp

/-- If no output file of a directory is found to be written by hand, each of those that are there
is marked as a generated one. If one is found, it is there, and each of those before it that are
there is marked; it is not marked itself, unless no file is taken for a generated one because the
sentinel begins with a blank. -/
theorem handWritten?_spec (plain : '\uFFFD' ∉ outputs.sentinel.toList) (tree : FileTree)
    (dir : Path) :
    (outputs.handWritten? tree dir = none → ∀ name ∈ outputs.names, ∀ bytes,
      tree.bytes (dir.join name) = .ok bytes → outputs.Marked bytes) ∧
    ∀ path, outputs.handWritten? tree dir = some path → ∃ before name after,
      outputs.names = before ++ name :: after ∧ path = dir.join name ∧
      (∃ bytes, tree.bytes path = .ok bytes ∧ ¬ (outputs.Solid ∧ outputs.Marked bytes)) ∧
      ∀ other ∈ before, ∀ bytes,
        tree.bytes (dir.join other) = .ok bytes → outputs.Marked bytes := by
  have marked {path : Path} (clear : outputs.isHandWritten tree path = false)
      (bytes : List UInt8) (there : tree.bytes path = .ok bytes) : outputs.Marked bytes := by
    rw [isHandWritten, there, Bool.not_eq_false'] at clear
    exact ((isGenerated_iff plain).1 clear).2
  rw [handWritten?, candidates]
  constructor
  · intro none name member
    exact marked (by simpa using List.find?_eq_none.1 none _ (List.mem_map_of_mem member))
  · intro path found
    obtain ⟨byHand, front, back, split, clear⟩ := List.find?_eq_some_iff_append.1 found
    obtain ⟨before, others, names, rfl, joined⟩ := List.map_eq_append_iff.1 split
    obtain ⟨name, after, rfl, rfl, -⟩ := List.map_eq_cons_iff.1 joined
    obtain ⟨bytes, there, unmarked⟩ := isHandWritten_iff.1 byHand
    refine ⟨before, name, after, names, rfl, ⟨bytes, there, fun both => ?_⟩,
      fun other member => ?_⟩
    · rw [(isGenerated_iff plain).2 both] at unmarked
      cases unmarked
    · exact marked (by simpa using clear _ (List.mem_map_of_mem member))

/-- Of two files, one has a wide blank and a line break in front of its sentinel, and the other
ends inside the last character of it. -/
theorem handWritten?_spec_cut :
    let outputs : OutputFiles := ⟨["hscript.yml", "wscript"], "# né"⟩
    let whole : List UInt8 := [0xE3, 0x80, 0x80, 0x0A, 0x23, 0x20, 0x6E, 0xC3, 0xA9, 0x0A]
    let cut : List UInt8 := [0x23, 0x20, 0x6E, 0xC3]
    let tree := FileTree.ofEntries ["w"]
      [(⟨"p/hscript.yml"⟩, some whole), (⟨"p/wscript"⟩, some cut), (⟨"q/wscript"⟩, some whole)]
    '\uFFFD' ∉ outputs.sentinel.toList ∧
      outputs.handWritten? tree ⟨"p"⟩ = some ⟨"p/wscript"⟩ ∧
      outputs.handWritten? tree ⟨"q"⟩ = none ∧ outputs.Marked whole ∧ ¬ outputs.Marked cut := by
  intro outputs whole cut tree
  have plain : '\uFFFD' ∉ outputs.sentinel.toList := by decide
  have found : outputs.handWritten? tree ⟨"p"⟩ = some ⟨"p/wscript"⟩ := by decide +kernel
  have clear : outputs.handWritten? tree ⟨"q"⟩ = none := by decide +kernel
  refine ⟨plain, found, clear, ?_, fun marked => ?_⟩
  · exact (handWritten?_spec plain tree ⟨"q"⟩).1 clear "wscript" (by decide) whole (by rfl)
  · obtain ⟨_, _, _, -, -, ⟨bytes, there, unmarked⟩, -⟩ :=
      (handWritten?_spec plain tree ⟨"p"⟩).2 _ found
    have same : tree.bytes ⟨"p/wscript"⟩ = .ok cut := by rfl
    obtain rfl : bytes = cut := Except.ok.inj (there.symm.trans same)
    have solid : outputs.Solid := by
      intro c first
      have letters : outputs.sentinel.toList.head? = some '#' := by decide
      obtain rfl : '#' = c := Option.some.inj (letters.symm.trans first)
      rfl
    exact unmarked ⟨solid, marked⟩

end OutputFiles

end Requirements
