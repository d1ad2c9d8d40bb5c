import Scenario.Build
import Scenario.Loading

/-! # Many classes at once -/

namespace Scenario

/-- What became of a class: its specification, or the error that stopped it. -/
structure Outcome where
  className : String
  result : Except ParseError Specification

/-- Builds every class on its own, with the records made on the way. -/
def buildAll (settings : Settings) : List ClassDecl → List Event × List Outcome
  | [] => ([], [])
  | c :: rest =>
    let (events, result) := c.build settings
    let noted := match result with
      | .ok _ => []
      | .error e => [Event.failed c.name e.message]
    let (laterEvents, outcomes) := buildAll settings rest
    (events ++ noted ++ laterEvents, ⟨c.name, result⟩ :: outcomes)

/-- What became of every class. -/
def outcomes (settings : Settings) (classes : List ClassDecl) : List Outcome :=
  (buildAll settings classes).2

/-- The specifications among outcomes. -/
def specificationsOf (os : List Outcome) : List Specification :=
  os.filterMap (·.result.toOption)

/-- Why files are not all turned into specifications. -/
inductive FilesError where
  | load (e : LoadError)
  | parse (e : ParseError)

/-- The specifications of classes, or the first error. -/
def specifications (settings : Settings) (classes : List ClassDecl) :
    Except ParseError (List Specification) :=
  classes.mapM (·.specification settings)

/-- The specifications of all classes of several files, or the first error: a file is loaded
before its classes are built, and its classes are built before the next file is loaded. -/
def parseFiles (tree : FileTree) (home : Address) (settings : Settings) :
    List Path → Except FilesError (List Specification)
  | [] => .ok []
  | path :: rest =>
    match loadClasses tree home path with
    | .error e => .error (.load e)
    | .ok classes =>
      match specifications settings classes with
      | .error e => .error (.parse e)
      | .ok specs => (specs ++ ·) <$> parseFiles tree home settings rest

end Scenario
