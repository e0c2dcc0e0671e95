/-!
# Blank characters

The characters that count as white space: the control characters for tab, line and page ends, the
four separators of the control block, the plain space, the no-break and fixed-width spaces, and the
line and paragraph separators.
-/

set_option autoImplicit false

namespace FilterGraph.Text

/-- The ranges of code points, ends included, of the blank characters. -/
def blankRanges : List (Nat × Nat) :=
  [(0x9, 0xd), (0x1c, 0x20), (0x85, 0x85), (0xa0, 0xa0), (0x1680, 0x1680), (0x2000, 0x200a),
    (0x2028, 0x2029), (0x202f, 0x202f), (0x205f, 0x205f), (0x3000, 0x3000)]

/-- Whether a character is blank. -/
def isBlank (c : Char) : Bool :=
  blankRanges.any fun range => range.1 ≤ c.toNat && c.toNat ≤ range.2

/-- Whether a character is blank and does not end a line. -/
def isInlineBlank (c : Char) : Bool := isBlank c && c != '\n' && c != '\r'

/-- Whether a character is one of the four separators of the control block. -/
def isSeparator (c : Char) : Bool := 0x1c ≤ c.toNat && c.toNat ≤ 0x1f

/-- A text without the characters with a property at both ends. -/
def trimWhile (holds : Char → Bool) (s : List Char) : List Char :=
  ((s.dropWhile holds).reverse.dropWhile holds).reverse

/-- A text without the blanks at both ends. -/
def trim (s : List Char) : List Char := trimWhile isBlank s

/-- A text in small letters, as far as plain Latin goes. -/
def lowered (s : String) : String := s.map Char.toLower

end FilterGraph.Text
