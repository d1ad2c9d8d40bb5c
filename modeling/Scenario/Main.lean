import Scenario.Command

/-! # The program

The program looks at the files that its arguments may concern, and writes what the command line
gives for them. -/

namespace Scenario.Command

/-- The version of the program. -/
def version : String := "0.1.0"

/-- Opens a file or a directory. -/
def openAt (name : String) : BaseIO (Except IO.Error IO.FS.Handle) :=
  (IO.FS.Handle.mk name .read).toBaseIO

/-- Whether an attempt to open something failed because it may not be read. -/
def isDenied : Except IO.Error IO.FS.Handle → Bool
  | .error (.permissionDenied ..) => true
  | _ => false

/-- A tree with what really stands at an address. What can be opened and not read is a directory; of
what may not be opened, a directory is what has itself inside it under the name of a dot. -/
def lookAt (tree : FileTree) (a : Address) : IO FileTree := do
  let name := "/" ++ "/".intercalate a
  match ← openAt name with
  | .ok handle =>
    match ← handle.readBinToEnd.toBaseIO with
    | .ok content => return tree.insert a (.file content.toList)
    | .error _ => return tree.insert a .directory
  | failed =>
    if !isDenied failed then return tree
    else if isDenied (← openAt (name ++ "/.")) then return (tree.insert a .directory).lock a
    else return tree.insert a .locked

/-- A run of the program in the working directory. -/
def program (args : List String) : IO UInt32 := do
  let home := Path.ofText (toString (← IO.currentDir))
  let tree ← (addresses home.parts args).foldlM lookAt .empty
  let output := run { tree, home, version } args
  IO.print output.stdout.content
  IO.eprint output.stderr.content
  return output.exit.toUInt32

end Scenario.Command

/-- The program. -/
def main (args : List String) : IO UInt32 := Scenario.Command.program args
