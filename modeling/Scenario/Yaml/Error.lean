import Scenario.Calendar
import Scenario.Number.Digits
import Scenario.Text.Quoted

/-! # Why a text is no YAML document -/

namespace Scenario.Yaml

/-- A scalar that is marked as a value of a kind, or has the form of one, but is none. -/
inductive ScalarFault where
  /-- A date or time that is not in the calendar. -/
  | calendar (fault : CalendarFault)
  /-- No whole number in a base. -/
  | notInteger (base : Nat) (text : String)
  /-- More digits than are read. -/
  | longInteger (fault : Digits.Fault)
  | notFloat (text : String)
  /-- A place of base sixty is beyond the floating-point numbers. -/
  | beyondFloat
  /-- A number without any character. -/
  | emptyNumber
  | notBool (text : String)
  | notTimestamp
  /-- A mapping with a default value stands for a date or time. -/
  | mappingAsTimestamp
  /-- A mapping is its own default value. -/
  | endlessDefault
  /-- The number of an escape is beyond the last character. -/
  | character (code : Nat)
deriving DecidableEq, Repr

/-- The greatest number of characters of a text that is shown as no whole number, its opening quote
included. -/
def shownLength : Nat := 200

/-- The message for a scalar at fault. -/
def ScalarFault.message : ScalarFault → String
  | .calendar fault => fault.message
  | .notInteger base text =>
    s!"invalid literal for int() with base {base}: " ++
      String.ofList ((Text.quoted text).toList.take shownLength)
  | .longInteger fault => fault.message
  | .notFloat text => "could not convert string to float: " ++ Text.quoted text
  | .beyondFloat => "int too large to convert to float"
  | .emptyNumber => "string index out of range"
  | .notBool text => Text.quoted text
  | .notTimestamp => "'NoneType' object has no attribute 'groupdict'"
  | .mappingAsTimestamp => "expected string or bytes-like object, got 'list'"
  | .endlessDefault => "maximum recursion depth exceeded"
  | .character code =>
    if code < Nat.pow 2 31 then "chr() arg not in range(0x110000)"
    else "Python int too large to convert to C int"

/-- Why a text is no document. -/
inductive Error where
  /-- The text breaks the rules of the format. -/
  | malformed
  | scalar (fault : ScalarFault)
deriving DecidableEq, Repr

end Scenario.Yaml
