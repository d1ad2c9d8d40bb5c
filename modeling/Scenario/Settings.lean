/-! # Settings of the classification -/

namespace Scenario

/-- What happens when a class declares a fixture twice. -/
inductive DuplicatePolicy where
  /-- The class is refused. -/
  | error
  /-- The later declaration counts, with a warning. -/
  | overwrite
deriving DecidableEq, Repr

namespace DuplicatePolicy

/-- All policies, in the order in which they are offered. -/
def all : List DuplicatePolicy := [.error, .overwrite]

/-- The name of a policy. -/
def name : DuplicatePolicy → String
  | .error => "error"
  | .overwrite => "overwrite"

/-- The policy with a given name. -/
def ofName? (s : String) : Option DuplicatePolicy := all.find? (·.name == s)

end DuplicatePolicy

/-- How the members of a class are classified. -/
structure Settings where
  /-- Fields whose names begin so are ignored. -/
  internalPrefix : String := "$"
  /-- Marks fields that outlive one iteration of a feature. -/
  sharedMarker : String := "Shared"
  duplicates : DuplicatePolicy := .error
deriving DecidableEq, Repr

end Scenario
