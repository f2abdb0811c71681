/-!
# Blank characters

White space in the wide sense: the separators of lines, paragraphs and words, and the information
separators from `U+001C` to `U+001F`.  `trim` removes it from both ends of a text.
-/

namespace FormEngine

/-- True of the white space code points. -/
def isBlankPoint (n : Nat) : Bool :=
  (0x09 ≤ n && n ≤ 0x0D) || (0x1C ≤ n && n ≤ 0x20) || n = 0x85 || n = 0xA0 || n = 0x1680
    || (0x2000 ≤ n && n ≤ 0x200A) || n = 0x2028 || n = 0x2029 || n = 0x202F || n = 0x205F
    || n = 0x3000

/-- True of the white space characters. -/
def isBlankChar (c : Char) : Bool := isBlankPoint c.toNat

/-- A text without the white space at its ends. -/
def trim (cs : List Char) : List Char :=
  ((cs.dropWhile isBlankChar).reverse.dropWhile isBlankChar).reverse

end FormEngine
