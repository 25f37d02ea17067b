/-!
# UTF-8

Bytes are read one at a time. Inside a character the reader knows how many bytes
are still owed, the range the next one must lie in, and the bits collected so
far. A byte outside that range ends the unfinished character there and is read
again as a first byte, so every longest run of bytes that begins a character and
does not finish one counts as a single fault. Exact decoding refuses a text with
a fault; lenient decoding puts U+FFFD in the place of each.
-/

namespace Requirements.Text.Utf8

/-- An unfinished character: the bytes still owed, the range of the next one, and
the bits read so far. -/
structure Pending where
  owed : Nat
  low : Nat
  high : Nat
  bits : Nat
  deriving DecidableEq, Repr

/-- What one byte does: it finishes a character, leaves one unfinished, or fits
nowhere. -/
inductive Step where
  | char (c : Char)
  | more (pending : Pending)
  | refused

/-- Read the first byte of a character. The ranges keep out the longer spellings
of a code point, the surrogates, and what lies above U+10FFFF. -/
def first (byte : UInt8) : Step :=
  let b := byte.toNat
  if b < 0x80 then .char (Char.ofNat b)
  else if b < 0xC2 then .refused
  else if b < 0xE0 then .more ⟨1, 0x80, 0xBF, b - 0xC0⟩
  else if b = 0xE0 then .more ⟨2, 0xA0, 0xBF, 0⟩
  else if b = 0xED then .more ⟨2, 0x80, 0x9F, b - 0xE0⟩
  else if b < 0xF0 then .more ⟨2, 0x80, 0xBF, b - 0xE0⟩
  else if b = 0xF0 then .more ⟨3, 0x90, 0xBF, 0⟩
  else if b < 0xF4 then .more ⟨3, 0x80, 0xBF, b - 0xF0⟩
  else if b = 0xF4 then .more ⟨3, 0x80, 0x8F, b - 0xF0⟩
  else .refused

/-- Read a further byte of an unfinished character. -/
def Pending.next (p : Pending) (byte : UInt8) : Step :=
  let b := byte.toNat
  if p.low ≤ b ∧ b ≤ p.high then
    let bits := p.bits * 64 + (b - 0x80)
    if p.owed ≤ 1 then .char (Char.ofNat bits) else .more ⟨p.owed - 1, 0x80, 0xBF, bits⟩
  else .refused

/-- The characters of a byte sequence in order, with `none` for each fault. -/
def scan : Option Pending → List UInt8 → List (Option Char)
  | none, [] => []
  | some _, [] => [none]
  | none, byte :: bytes =>
    match first byte with
    | .char c => some c :: scan none bytes
    | .more p => scan (some p) bytes
    | .refused => none :: scan none bytes
  | some p, byte :: bytes =>
    match p.next byte with
    | .char c => some c :: scan none bytes
    | .more p => scan (some p) bytes
    | .refused =>
      match first byte with
      | .char c => none :: some c :: scan none bytes
      | .more p => none :: scan (some p) bytes
      | .refused => none :: none :: scan none bytes

/-- The text a byte sequence spells, if it has no fault. -/
def decode? (bytes : List UInt8) : Option (List Char) := (scan none bytes).mapM id

/-- The text a byte sequence spells, with U+FFFD for each fault. -/
def decodeLenient (bytes : List UInt8) : List Char :=
  (scan none bytes).map fun c => c.getD '\uFFFD'

/-- The bytes of a text. -/
def encode (text : String) : List UInt8 := text.toUTF8.toList

end Requirements.Text.Utf8
