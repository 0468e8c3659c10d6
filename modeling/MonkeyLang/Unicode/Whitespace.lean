import MonkeyLang.Unicode.Ranges

/-!
# White space

The Unicode property `White_Space`, and trimming a text of it at both ends.
-/

namespace MonkeyLang.Unicode

/-- The characters with the property `White_Space`. -/
def whitespace : Ranges :=
  [(0x0009, 0x000D), (0x0020, 0x0020), (0x0085, 0x0085), (0x00A0, 0x00A0), (0x1680, 0x1680),
   (0x2000, 0x200A), (0x2028, 0x2029), (0x202F, 0x202F), (0x205F, 0x205F), (0x3000, 0x3000)]

/-- Whether a character has the property `White_Space`. -/
def isWhitespace (c : Char) : Bool := whitespace.has c

/-- A text without the white space at its two ends. -/
def trim (cs : List Char) : List Char :=
  ((cs.dropWhile isWhitespace).reverse.dropWhile isWhitespace).reverse

end MonkeyLang.Unicode
