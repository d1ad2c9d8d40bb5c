import Scenario.Text.Emoji
import Scenario.Text.Style

/-! # Texts with marks of style

A mark of style stands in square brackets, and a backslash in front of it takes its meaning away.
What such a text says is what is left of it without the marks, with pictures in place of their
names. A mark with a slash ends the style of a mark before it. -/

namespace Scenario.Text.Markup

/-- Whether a character may follow the bracket that opens a mark. -/
def opensMark (c : Char) : Bool := ('a' ≤ c && c ≤ 'z') || c == '#' || c == '/' || c == '@'

/-- Whether a mark begins here: after its first character a closing bracket has to come before the
next opening one. -/
def startsMark : List Char → Bool
  | '[' :: c :: rest =>
    opensMark c && (rest.dropWhile fun d => d != ']' && d != '[').head? == some ']'
  | _ => false

/-- Escapes what follows `run` backslashes: those before a mark are doubled, with one more for the
mark itself, and a single one at the end is doubled. -/
def escapeFrom (run : Nat) : List Char → List Char
  | [] => if run = 1 then ['\\'] else []
  | c :: rest =>
    if c = '\\' then c :: escapeFrom (run + 1) rest
    else if startsMark (c :: rest) then List.replicate (run + 1) '\\' ++ c :: escapeFrom 0 rest
    else c :: escapeFrom 0 rest

/-- A text whose marks have no meaning. -/
def escape (s : String) : String := String.ofList (escapeFrom 0 s.toList)

/-- A text between the marks of a style. -/
def styled (style text : String) : String := s!"[{style}]{text}[/{style}]"

/-- A piece of a text: characters that are said, or what stands in the brackets of a mark. -/
inductive Piece where
  | said (cs : List Char)
  | mark (inside : List Char)
deriving DecidableEq, Repr

/-- The piece that characters make, the last of which comes first. -/
def Piece.ofReversed (cs : List Char) : List Piece :=
  if cs.isEmpty then [] else [.said cs.reverse]

/-- The pieces of what follows `run` backslashes. `said` are the characters of the piece that has
begun, and `mark` those of a mark, with whether it is only said; both stand last first. Of the
backslashes before a mark every two say one, and one left over makes the mark a piece that is said.
Before a bracket without a mark one backslash is lost. -/
def piecesFrom (mark : Option (Bool × List Char)) (run : Nat) (said : List Char) :
    List Char → List Piece
  | [] => Piece.ofReversed (List.replicate run '\\' ++ said)
  | c :: rest =>
    match mark with
    | some (isSaid, inside) =>
      if c = ']' then
        (if isSaid then .said ('[' :: (c :: inside).reverse) else .mark inside.reverse) ::
          piecesFrom none 0 [] rest
      else piecesFrom (some (isSaid, c :: inside)) 0 [] rest
    | none =>
      if c = '\\' then piecesFrom none (run + 1) said rest
      else if startsMark (c :: rest) then
        Piece.ofReversed said ++ Piece.ofReversed (List.replicate (run / 2) '\\') ++
          piecesFrom (some (run % 2 == 1, [])) 0 [] rest
      else
        let kept := if c = '[' then run - 1 else run
        piecesFrom none 0 (c :: (List.replicate kept '\\' ++ said)) rest

/-- The pieces of a text. -/
def pieces (s : String) : List Piece := piecesFrom none 0 [] s.toList

/-- What a piece says. -/
def Piece.chars : Piece → List Char
  | .said cs => Emoji.expand cs
  | .mark _ => []

/-- What a text says. -/
def plain (s : String) : List Char := (pieces s).flatMap Piece.chars

/-- The style of a mark, with what is said of it after an equals sign. -/
structure Mark where
  style : String
  parameters : List Char
deriving DecidableEq, Repr

/-- What is said of a mark after its name. -/
def parametersOf (inside : List Char) : List Char := (inside.dropWhile (· ≠ '=')).drop 1

/-- Whether a mark can be ended: what is said of a mark for an action has to be a name. -/
def Mark.canEnd (m : Mark) : Bool :=
  !m.style.startsWith "@" ||
    (strip m.parameters).all fun c => c.isAlphanum || c = '_' || c = '.'

/-- Whether every mark that ends a style has one to end. `started` are the marks before, the last
one first. -/
def endsFit (started : List Mark) : List Piece → Bool
  | [] => true
  | .said _ :: rest => endsFit started rest
  | .mark inside :: rest =>
    match inside.takeWhile (· ≠ '=') with
    | '/' :: name =>
      let ended := if (strip name).isEmpty then started.head?
        else started.find? (·.style == Style.normalName (strip name))
      match ended with
      | some m => m.canEnd && endsFit (started.erase m) rest
      | none => false
    | name => endsFit (⟨Style.normalName name, parametersOf inside⟩ :: started) rest

/-- Whether a text can be shown. -/
def canShow (s : String) : Bool := endsFit [] (pieces s)

end Scenario.Text.Markup
