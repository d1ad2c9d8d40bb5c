import Scenario.Diagnostic
import Scenario.Settings
import Scenario.Text.LowerCase

/-! # What a declaration is

A field is data or ignored. A method is ignored, a fixture, a feature or a helper, or it is
refused. -/

namespace Scenario

/-- What is recorded of a data field. -/
structure DataField where
  shared : Bool
  propertyName : Option String
deriving DecidableEq, Repr

/-- The data field that a field is: internal fields are ignored, and static and synthetic ones
unless a property of the same name is declared. -/
def FieldDecl.dataField? (f : FieldDecl) (settings : Settings) (owner : ClassDecl) :
    Option DataField :=
  if settings.internalPrefix.toList.isPrefixOf f.name.toList then none
  else
    let property := owner.property? f.name
    if property.isNone && (f.isStatic || f.isSynthetic) then none
    else some
      { shared := f.isAnnotatedWith settings.sharedMarker
        propertyName := property.map (·.name) }

/-- What a method is. -/
inductive MethodVerdict where
  | ignored
  | fixture (role : Role)
  | feature
  | helper
deriving DecidableEq, Repr

/-- The name of a verdict. -/
def MethodVerdict.name : MethodVerdict → String
  | .ignored => "ignored"
  | .fixture _ => "fixture"
  | .feature => "feature"
  | .helper => "helper"

/-- The role that a name has but for the case of its letters. -/
def Role.resembling? (name : String) : Option Role :=
  Role.all.find? fun role => Text.lowerCase role.name == Text.lowerCase name

/-- What a method is. The rules are tried in order: synthetic, constructor, fixture by name,
feature by labels. -/
def MethodDecl.classify (m : MethodDecl) : Except Refusal MethodVerdict :=
  if m.isSynthetic then .ok .ignored
  else if m.isConstructor then .error .constructor
  else match Role.resembling? m.name with
    | some role =>
      if role.name ≠ m.name then .error (.misspelledFixture role)
      else if m.isStatic then .error .staticFixture
      else .ok (.fixture role)
    | none =>
      if !m.hasLabels then .ok .helper
      else if m.isStatic then .error .staticFeature
      else .ok .feature

/-- An error at the declaration of a method. -/
def ClassDecl.errorAt (owner : ClassDecl) (m : MethodDecl) (refusal : Refusal) : ParseError :=
  { refusal, location := owner.locate m.position (some m.name) }

end Scenario
