import Cupping.Row
import Cupping.Text.Lines

/-!
Tables in comma separated text. The first line that is not blank names the columns; every further
one is a row. There is no quoting.
-/

namespace Cupping

/-- Why a text is no table. -/
inductive TableFault where
  | noHeader
  | unnamedColumn
  | tooManyCells (line found expected : Nat)
deriving DecidableEq, Repr

def TableFault.message : TableFault → String
  | noHeader => "CSV has no header row"
  | unnamedColumn => "CSV header contains an empty column name"
  | tooManyCells line found expected =>
    "line " ++ toString line ++ " has " ++ toString found ++ " cells but the header has "
      ++ toString expected

namespace Table

/-- The cells of one line, as written. -/
def splitCells (line : List Char) : List String :=
  (Text.splitAt ',' line).map String.ofList

def filledLines (text : String) : List (List Char) :=
  (Text.lines text.toList).filter fun line => !line.all Text.isBlankChar

/-- The row of one line. Blank cells are left out, and so are columns beyond its end. -/
def rowOf (headers : List String) (cells : List String) : Row :=
  Row.ofList ((headers.zip cells).filterMap fun (header, raw) =>
    (Cell.ofRaw? raw).map (header, ·))

/-- The rows of the lines after the header; lines are counted from one with the header first and
blank lines left out. -/
def readRows (headers : List String) : Nat → List (List Char) → Except TableFault (List Row)
  | _, [] => .ok []
  | number, line :: rest =>
    let cells := splitCells line
    if headers.length < cells.length then
      .error (.tooManyCells number cells.length headers.length)
    else match readRows headers (number + 1) rest with
      | .error fault => .error fault
      | .ok rows => .ok (rowOf headers cells :: rows)

def read (text : String) : Except TableFault (List Row) :=
  match filledLines text with
  | [] => .error .noHeader
  | header :: rest =>
    let headers := (splitCells header).map Text.trim
    if headers.any String.isEmpty then .error .unnamedColumn
    else readRows headers 2 rest

end Table
end Cupping
