import Requirements.FileTree.Basic
import Requirements.Text.Words

/-!
# Output files of a package

A generated output file starts with a sentinel, after blanks at most. Only the header
of a file is looked at, and the sentinel has to stand in it completely. A file without
it was written by hand and is not to be replaced.
-/

namespace Requirements

/-- The names of the output files, and the sentinel in front of a generated one. -/
structure OutputFiles where
  names : List String
  sentinel : String
  deriving DecidableEq, Repr

namespace OutputFiles

/-- The least number of bytes that are looked at. -/
def headerBytes : Nat := 64

/-- The bytes of a file that are looked at. They have room for the sentinel. -/
def header (outputs : OutputFiles) (bytes : List UInt8) : List UInt8 :=
  bytes.take (max headerBytes outputs.sentinel.utf8ByteSize)

/-- Whether a file with this content was generated. -/
def isGenerated (outputs : OutputFiles) (bytes : List UInt8) : Bool :=
  outputs.sentinel.toList.isPrefixOf
    (Text.trimStart (Text.Utf8.decodeLenient (outputs.header bytes)))

/-- Whether a path leads to a file that was written by hand. -/
def isHandWritten (outputs : OutputFiles) (tree : FileTree) (path : Path) : Bool :=
  match tree.bytes path with
  | .ok bytes => !outputs.isGenerated bytes
  | .error _ => false

/-- Where the output files of a directory may be. -/
def candidates (outputs : OutputFiles) (dir : Path) : List Path := outputs.names.map dir.join

/-- The first output file of a directory that was written by hand. -/
def handWritten? (outputs : OutputFiles) (tree : FileTree) (dir : Path) : Option Path :=
  (outputs.candidates dir).find? (outputs.isHandWritten tree)

end OutputFiles

end Requirements
