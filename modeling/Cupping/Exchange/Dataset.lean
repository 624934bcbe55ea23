import Cupping.Dataset
import Cupping.Json.Record

/-!
The JSON form of cells, rows and parameters.
-/

namespace Cupping

def Cell.toJson : Cell → Json.Value
  | number value => .number (.real value)
  | text value => .text value

def Cell.ofJson? : Json.Value → Option Cell
  | .number value => some (.number value.toFloat)
  | .text value => some (.text value)
  | _ => none

def ParameterSet.toJson (parameters : ParameterSet) : Json.Value :=
  .record (parameters.entries.map fun entry => (entry.1, entry.2.toJson))

def ParameterSet.ofJson? : Json.Value → Option ParameterSet :=
  Json.Value.mapOf? Cell.ofJson?

def Row.toJson (row : Row) : Json.Value :=
  ParameterSet.toJson row.cells

def Row.ofJson? (value : Json.Value) : Option Row :=
  (ParameterSet.ofJson? value).map Row.mk

def NumericRange.toJson (range : NumericRange) : Json.Value :=
  .record [("low", .number (.real range.low)), ("high", .number (.real range.high)),
    ("step", .number (.real range.step))]

/-- Reads a range, whatever its numbers are. -/
def NumericRange.ofJson? (value : Json.Value) : Option NumericRange := do
  let fields ← Json.Record.ofValue? ["low", "high", "step"] value
  some ⟨← fields.required "low" Json.Value.float?, ← fields.required "high" Json.Value.float?,
    ← fields.required "step" Json.Value.float?⟩

def ParameterKind.ofName? (name : String) : Option ParameterKind :=
  [integer, real, category].find? (·.name = name)

def Parameter.toJson (parameter : Parameter) : Json.Value :=
  .record [("name", .text parameter.name), ("kind", .text parameter.kind.name),
    ("unit", .ofText? parameter.unit),
    ("range", (parameter.range.map NumericRange.toJson).getD .null)]

def Parameter.ofJson? (value : Json.Value) : Option Parameter := do
  let fields ← Json.Record.ofValue? ["name", "kind", "unit", "range"] value
  some
    { name := ← fields.required "name" Json.Value.text?
      kind := ← fields.required "kind" (Json.Value.choice? ParameterKind.ofName?)
      unit := ← fields.nullable "unit" Json.Value.text?
      range := ← fields.nullable "range" NumericRange.ofJson? }

end Cupping
