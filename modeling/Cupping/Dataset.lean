import Cupping.Parameter
import Cupping.Table

/-!
Datasets: a table of brews, and a table that describes its columns. A column is a parameter of the
brew or the scores of one person.
-/

namespace Cupping

/-- A described column. -/
inductive Column where
  | parameter (described : Parameter)
  | score (person : String)
deriving DecidableEq, Repr

def Column.name : Column → String
  | .parameter described => described.name
  | .score person => person

/-- Why a row of metadata describes no column. -/
inductive MetadataFault where
  | missingName
  | missingType (name : String)
  | unknownType (name type : String)
  | unknownKind (kind : String)
  | missingNumber (name field : String)
  | impossible (cause : ParameterFault)
deriving DecidableEq, Repr

def MetadataFault.message : MetadataFault → String
  | missingName => "missing 'name'"
  | missingType name => name ++ ": missing 'type'"
  | unknownType name type => name ++ ": unknown column type '" ++ type ++ "'"
  | unknownKind kind => "unknown parameter type '" ++ kind ++ "'"
  | missingNumber name field => name ++ ": numeric parameter needs '" ++ field ++ "'"
  | impossible cause => "Invalid input: " ++ cause.message

/-- Why there is no dataset. -/
inductive DatasetFault where
  | table (cause : TableFault)
  | metadata (row : Nat) (cause : MetadataFault)
  | repeatedColumn (name : String)
  | unreadable (path reason : String)
deriving DecidableEq, Repr

def DatasetFault.message : DatasetFault → String
  | table cause => cause.message
  | metadata row cause => "metadata row " ++ toString row ++ ": Dataset error: " ++ cause.message
  | repeatedColumn name => "column '" ++ name ++ "' described more than once"
  | unreadable path reason => "could not load " ++ path ++ ": " ++ reason

namespace Column

def requiredNumber (row : Row) (name field : String) : Except MetadataFault Float :=
  match row.number? field with
  | some value => .ok value
  | none => .error (.missingNumber name field)

/-- The numeric parameter that a row of metadata describes; the step is one unless it says
otherwise. -/
def numericOfRow (row : Row) (name : String) (kind : ParameterKind) :
    Except MetadataFault Parameter := do
  let low ← requiredNumber row name "low"
  let high ← requiredNumber row name "high"
  let step := (row.number? "step").getD 1.0
  match Parameter.numeric name kind low high step with
  | .ok described => .ok described
  | .error cause => .error (.impossible cause)

/-- The kind that a row of metadata gives; real when it gives none. -/
def kindOfRow (row : Row) : Except MetadataFault ParameterKind :=
  match row.get? "parameter type" with
  | none => .ok .real
  | some cell =>
    match ParameterKind.read cell.display with
    | .ok kind => .ok kind
    | .error given => .error (.unknownKind given)

def ofRow (row : Row) : Except MetadataFault Column := do
  let name ← match row.get? "name" with
    | some cell => .ok cell.display
    | none => .error MetadataFault.missingName
  let unit := (row.get? "unit").map Cell.display
  let type ← match row.get? "type" with
    | some cell => .ok (Text.lowerAscii cell.display)
    | none => .error (MetadataFault.missingType name)
  if type = "score" then .ok (.score name)
  else if type = "parameter" then
    let kind ← kindOfRow row
    let described ← if kind.isNumeric then numericOfRow row name kind
      else .ok (Parameter.category name)
    .ok (.parameter { described with unit })
  else .error (.unknownType name type)

/-- The columns that a metadata table describes, or the first row that describes none. Rows are
counted from the given number. -/
def ofRows : Nat → List Row → Except DatasetFault (List Column)
  | _, [] => .ok []
  | number, row :: rest =>
    match ofRow row with
    | .error cause => .error (.metadata number cause)
    | .ok column =>
      match ofRows (number + 1) rest with
      | .error fault => .error fault
      | .ok columns => .ok (column :: columns)

end Column

/-- Brews, and what is known about their columns. -/
structure Dataset where
  /-- What the names of its files start with. -/
  stem : String
  rows : List Row
  parameters : List Parameter
  persons : List String
deriving DecidableEq

namespace Dataset

/-- The first name that occurs again, when read after some names already seen. -/
def firstRepeated? (seen : List String) : List String → Option String
  | [] => none
  | name :: rest => if name ∈ seen then some name else firstRepeated? (name :: seen) rest

/-- The dataset of rows and described columns, each column described once. -/
def make (stem : String) (rows : List Row) (columns : List Column) : Except DatasetFault Dataset :=
  match firstRepeated? [] (columns.map Column.name) with
  | some name => .error (.repeatedColumn name)
  | none =>
    let parameters := columns.filterMap fun
      | .parameter described => some described
      | .score _ => none
    let persons := columns.filterMap fun
      | .parameter _ => none
      | .score person => some person
    .ok ⟨stem, rows, parameters, persons⟩

/-- The dataset of two texts, the first with the brews and the second with their columns. -/
def ofTexts (stem data metadata : String) : Except DatasetFault Dataset := do
  let rows ← (Table.read data).mapError .table
  let described ← (Table.read metadata).mapError .table
  make stem rows (← Column.ofRows 1 described)

/-- The names of the parameters, in the order of their description. -/
def parameterNames (dataset : Dataset) : List String :=
  dataset.parameters.map Parameter.name

def parameter? (dataset : Dataset) (name : String) : Option Parameter :=
  dataset.parameters.find? (·.name = name)

end Dataset
end Cupping
