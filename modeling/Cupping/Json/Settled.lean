import Cupping.Json.Record

/-!
Data that is kept as it came, without being known: every scalar has a value, the members of an
object are in the order of their names, and nesting is bounded.
-/

namespace Cupping.Json.Value

/-- The data to keep, with at most the given number of lists and objects around any scalar. -/
def settle? : Nat → Value → Option Value
  | _, unreadable => none
  | 0, list _ | 0, object _ => none
  | depth + 1, list items => (items.mapM (settle? depth)).map list
  | depth + 1, object members =>
    (mapOf? (settle? depth) (object members)).map fun kept => record kept.entries
  | _, scalar => some scalar

def memberNamed? (name : String) : Value → Option Value
  | object members => members.lookup (some name)
  | _ => none

end Cupping.Json.Value
