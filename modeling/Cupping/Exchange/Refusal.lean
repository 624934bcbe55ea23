import Cupping.Json.Settled
import Cupping.Json.Writing
import Cupping.Text.Blank

/-!
What the service says when it refuses a request: a text, a list of findings, or any other data.
-/

namespace Cupping.Refusal

/-- How deep the data in an answer may be nested, counting the record around it. -/
def maxDepth : Nat := 127

def detailOfJson? (value : Json.Value) : Option (Option Json.Value) := do
  let fields ← Json.Record.ofValue? ["detail"] value
  fields.optional "detail" (Json.Value.settle? (maxDepth - 1))

def findingMessage? (finding : Json.Value) : Option String :=
  (finding.memberNamed? "msg").bind Json.Value.text?

/-- The words for a reason, if there are any. -/
def wording? : Json.Value → Option String
  | .null => none
  | .list findings =>
    match findings.filterMap findingMessage? with
    | [] => none
    | messages => some ("; ".intercalate messages)
  | .text reason =>
    if Text.isBlank reason then some (Json.Value.text reason).write else some reason
  | other => some other.write

end Cupping.Refusal
