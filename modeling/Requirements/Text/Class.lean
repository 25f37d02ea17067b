/-!
# Classes of characters

A class is given by the closed ranges of code points that belong to it. The
ranges of a class are listed in ascending order, though membership does not
depend on it. Blanks are the characters with the Unicode property `White_Space`;
they separate words and are cut from both ends of a line.
-/

namespace Requirements.Text

/-- A class of characters as closed ranges of code points. -/
abbrev CharClass := List (Nat × Nat)

/-- Whether a character lies in one of the ranges. -/
def CharClass.contains (ranges : CharClass) (c : Char) : Bool :=
  ranges.any fun (low, high) => low ≤ c.toNat && c.toNat ≤ high

/-- The characters with the Unicode property `White_Space`. The zero-width space
and the byte order mark are not among them, nor are the separators below U+0020
other than tabulation and the four line and page breaks. -/
def blanks : CharClass :=
  [(0x0009, 0x000D), (0x0020, 0x0020), (0x0085, 0x0085), (0x00A0, 0x00A0),
   (0x1680, 0x1680), (0x2000, 0x200A), (0x2028, 0x2029), (0x202F, 0x202F),
   (0x205F, 0x205F), (0x3000, 0x3000)]

/-- Whether a character separates words. -/
def isBlank (c : Char) : Bool := blanks.contains c

theorem isBlank_space : isBlank ' ' = true := by decide

end Requirements.Text
