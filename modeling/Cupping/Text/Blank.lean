/-!
White space. The table lists the characters with the Unicode property `White_Space`; it has more
members than the four of `Char.isWhitespace`.
-/

namespace Cupping.Text

/-- The ranges of the Unicode property `White_Space`, by code point. -/
def blankRanges : List (Nat × Nat) :=
  [(0x09, 0x0D), (0x20, 0x20), (0x85, 0x85), (0xA0, 0xA0), (0x1680, 0x1680), (0x2000, 0x200A),
    (0x2028, 0x2029), (0x202F, 0x202F), (0x205F, 0x205F), (0x3000, 0x3000)]

/-- Whether a character is white space. -/
def isBlankChar (c : Char) : Bool :=
  blankRanges.any fun range => decide (range.1 ≤ c.toNat) && decide (c.toNat ≤ range.2)

def dropEndWhile (p : Char → Bool) (text : List Char) : List Char :=
  (text.reverse.dropWhile p).reverse

/-- Removes white space from both ends. -/
def trimChars (text : List Char) : List Char :=
  dropEndWhile isBlankChar (text.dropWhile isBlankChar)

/-- Removes white space from both ends of a string. -/
def trim (text : String) : String :=
  String.ofList (trimChars text.toList)

/-- Whether a string holds nothing but white space. -/
def isBlank (text : String) : Bool :=
  text.toList.all isBlankChar

/-- Lower case for the ASCII letters; all other characters stay. -/
def lowerAscii (text : String) : String :=
  String.ofList (text.toList.map Char.toLower)

end Cupping.Text
