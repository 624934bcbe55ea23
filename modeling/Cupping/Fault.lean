/-!
What a caller is told when something fails: the kind of failure, and the text shown for it.
-/

namespace Cupping

/-- A failure as it is reported to a caller. -/
inductive Fault where
  /-- A file could not be read. -/
  | file (detail : String)
  /-- The configuration is unusable. -/
  | configuration (detail : String)
  /-- The caller's input was rejected before any work was done. -/
  | input (detail : String)
  /-- A dataset or its metadata is unusable. -/
  | dataset (detail : String)
  /-- The service answered, but not with success. -/
  | refusal (status : Nat) (detail : String)
  /-- The service could not be reached. -/
  | unreachable (detail : String)
  /-- An answer could not be decoded. -/
  | undecodable (detail : String)
deriving DecidableEq, Repr

namespace Fault

def message : Fault → String
  | file detail => "IO error: " ++ detail
  | configuration detail => "Configuration error: " ++ detail
  | input detail => "Invalid input: " ++ detail
  | dataset detail => "Dataset error: " ++ detail
  | refusal status detail => "Request failed (" ++ toString status ++ "): " ++ detail
  | unreachable detail => "Network unreachable: " ++ detail
  | undecodable detail => "Parse error: " ++ detail

def isValidation : Fault → Bool
  | input _ => true
  | _ => false

def isTransport : Fault → Bool
  | refusal .. | unreachable _ => true
  | _ => false

/-- The text for activity lists: the service's own words when it refused, else the full message. -/
def brief : Fault → String
  | refusal _ detail => detail
  | other => other.message

end Fault
end Cupping
