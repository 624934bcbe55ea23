/-!
The activity list: the newest messages, newest first, and no more than fit.
-/

namespace Cupping.Tracking

/-- The newest messages about a run. -/
structure Activity where
  messages : List String
  /-- How many messages have been logged so far. -/
  logged : Nat
deriving DecidableEq, Repr

namespace Activity

def capacity : Nat := 20

def empty : Activity :=
  ⟨[], 0⟩

/-- Logs a message; the oldest one makes room. -/
def push (activity : Activity) (message : String) : Activity :=
  ⟨(message :: activity.messages).take capacity, activity.logged + 1⟩

def latest? (activity : Activity) : Option String :=
  activity.messages.head?

end Activity
end Cupping.Tracking
