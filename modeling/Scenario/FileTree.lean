import Scenario.Path
import Scenario.Text.Quoted

/-! # Trees of files

The files that a program may look at, as a value. An address is the list of directory names from
the top; a path is followed from a working directory.

A file or a directory may be locked: then it is there, but it may not be read. There is no lock
against looking up a name in a directory, so that only its length and the character NUL keep a path
from being followed. -/

namespace Scenario

/-- The names of the directories from the top, and of the file or directory itself. -/
abbrev Address := List String

/-- The address that one part of a path leads to: two dots take back the part before. -/
def Address.step (here : Address) (part : String) : Address :=
  if part = ".." then here.dropLast else here ++ [part]

/-- The addresses that lie on the way along parts of a path, with both ends. -/
def Address.stations (here : Address) : List String → List Address
  | [] => [here]
  | part :: rest => here :: Address.stations (Address.step here part) rest

namespace Path

/-- The address that a path starts from. -/
def origin (p : Path) (home : Address) : Address := if p.root = .relative then home else []

/-- The address that a path names, whatever exists. -/
def resolve (p : Path) (home : Address) : Address := p.parts.foldl Address.step (p.origin home)

/-- The addresses that are looked at when a path is followed. -/
def stations (p : Path) (home : Address) : List Address :=
  Address.stations (p.origin home) p.parts

end Path

/-- Why a path cannot be followed. -/
inductive PathFault where
  /-- The path, or a name in it, is longer than any. -/
  | tooLong (path : Path)
  /-- The path holds the character NUL. -/
  | nul
deriving DecidableEq, Repr

/-- The message for a path that cannot be followed. -/
def PathFault.message : PathFault → String
  | .tooLong path => "[Errno 36] File name too long: " ++ Text.quoted path.text
  | .nul => "embedded null byte"

namespace Path

/-- The greatest number of bytes of a name. -/
def maxNameSize : Nat := 255

/-- The greatest number of bytes of a path. -/
def maxSize : Nat := 4095

/-- The number of bytes of a text in a name. A half in it tells one byte, which is no part of a
character. -/
def size (s : String) : Nat :=
  (Text.codePoints s).foldl (fun
    | n, .char c => n + c.utf8Size
    | n, .half _ => n + 1) 0

/-- Whether a path holds the character NUL, which no name has. -/
def hasNul (p : Path) : Bool := p.parts.any fun part => part.toList.contains (Char.ofNat 0)

end Path

/-- The message for a path at which something stands that may not be read. -/
def Path.deniedMessage (p : Path) : String :=
  "[Errno 13] Permission denied: " ++ Text.quoted p.text

/-- What stands at an address. -/
inductive FileEntry where
  | file (content : List UInt8)
  /-- A file that may not be read. -/
  | locked
  | directory
deriving DecidableEq, Repr

/-- Files with their contents, and directories; whatever lies above a file or a directory is a
directory too. -/
structure FileTree where
  files : List (Address × List UInt8)
  directories : List Address
  /-- Where what stands may not be read, be it a file or a directory. -/
  locks : List Address
deriving Repr

namespace FileTree

/-- A tree without files. -/
def empty : FileTree := ⟨[], [], []⟩

/-- Locks what stands at an address. -/
def lock (t : FileTree) (a : Address) : FileTree := { t with locks := a :: t.locks }

/-- Whether what stands at an address may not be read. -/
def isLocked (t : FileTree) (a : Address) : Bool := t.locks.contains a

/-- Puts an entry at an address; of several entries at one address, the first counts, and all are
locked if one of them is. -/
def insert (t : FileTree) (a : Address) : FileEntry → FileTree
  | .file content => { t with files := t.files ++ [(a, content)] }
  | .locked => { t with files := t.files ++ [(a, [])] }.lock a
  | .directory => { t with directories := a :: t.directories }

/-- Whether an address is that of a directory. -/
def isDirectory (t : FileTree) (a : Address) : Bool :=
  a.isEmpty || t.directories.any (a.isPrefixOf ·) ||
    t.files.any fun f => a.isPrefixOf f.1 && a != f.1

/-- What stands at an address. -/
def entry? (t : FileTree) (a : Address) : Option FileEntry :=
  match t.files.find? (·.1 == a) with
  | some f => some (if t.isLocked a then .locked else .file f.2)
  | none => if t.isDirectory a then some .directory else none

/-- Whether a regular file stands at an address, locked or not. -/
def isFile (t : FileTree) (a : Address) : Bool :=
  match t.entry? a with
  | some (.file _) | some .locked => true
  | _ => false

/-- Follows the parts of a path from an address: only a directory can be passed through, and in a
directory no name is looked up that is too long. -/
def follow (t : FileTree) (whole : Path) (here : Address) :
    List String → Except PathFault (Option FileEntry)
  | [] => .ok (t.entry? here)
  | part :: rest =>
    if t.entry? here ≠ some .directory then .ok none
    else if Path.maxNameSize < Path.size part then .error (.tooLong whole)
    else t.follow whole (Address.step here part) rest

/-- What a path means when it is followed from a working directory. Nothing stands at a path with
the character NUL. -/
def find (t : FileTree) (home : Address) (p : Path) : Except PathFault (Option FileEntry) :=
  if p.hasNul then .ok none
  else if Path.maxSize < Path.size p.text then .error (.tooLong p)
  else t.follow p (p.origin home) p.parts

end FileTree

end Scenario
