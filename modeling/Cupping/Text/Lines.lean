/-!
Texts cut at a character, and texts cut into lines.
-/

namespace Cupping.Text

/-- Cuts a text at every occurrence of a character; there is one piece more than occurrences. -/
def splitAt (separator : Char) : List Char → List (List Char)
  | [] => [[]]
  | c :: rest =>
    match splitAt separator rest with
    | [] => [[c]]
    | piece :: more =>
      if c = separator then [] :: piece :: more else (c :: piece) :: more

def dropReturn (line : List Char) : List Char :=
  if line.getLast? = some '\r' then line.dropLast else line

/-- The lines of a text. A line feed ends a line, together with a carriage return before it; what
follows the last line feed is a line only if it is not empty. -/
def lines (text : List Char) : List (List Char) :=
  let pieces := splitAt '\n' text
  pieces.dropLast.map dropReturn ++ pieces.getLast?.toList.filter (!·.isEmpty)

end Cupping.Text
