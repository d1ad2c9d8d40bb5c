import Scenario.Yaml.Error

/-! # Tokens of YAML

Indentation is told by tokens that open and close block collections. A text that cannot be read on
is told by a last token with the reason, so that what the tokens before it break counts first. -/

namespace Scenario.Yaml

/-- A tag as it is written: a handle to be looked up and a suffix, or a whole tag. -/
structure TagSource where
  handle : Option String
  suffix : String
deriving DecidableEq, Repr

/-- A line with instructions in front of a document. -/
inductive Directive where
  | version (major minor : Nat)
  | tag (handle replacement : String)
  | other
deriving DecidableEq, Repr

/-- A token. -/
inductive Token where
  | directive (d : Directive)
  | documentStart
  | documentEnd
  | streamEnd
  | blockSequenceStart
  | blockMappingStart
  | blockEnd
  | flowSequenceStart
  | flowSequenceEnd
  | flowMappingStart
  | flowMappingEnd
  /-- A dash in front of an entry of a sequence. -/
  | blockEntry
  /-- A comma between entries. -/
  | flowEntry
  | key
  | value
  | alias (name : String)
  | anchor (name : String)
  | tag (source : TagSource)
  | scalar (text : String) (plain : Bool)
  /-- The text cannot be read on from here. -/
  | broken (fault : ScalarFault)
deriving DecidableEq, Repr

/-- Why no more can be made of tokens that do not go on as they should. -/
def Token.refusal : List Token → Error
  | .broken fault :: _ => .scalar fault
  | _ => .malformed

end Scenario.Yaml
