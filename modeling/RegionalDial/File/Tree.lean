/-
# Files

What a program sees of the files around it is one function: the content of each path, or the
reason why it cannot be read.  A tree of named files gives such a function by walking a path name
by name from the current directory.
-/
import RegionalDial.File.Path

namespace RegionalDial
namespace File

/-- Why a file cannot be read. -/
inductive Error where
  | notFound
  | notADirectory
  | isADirectory
  | nameTooLong
  | notText
  | nulInName
  /-- Any other reason, in the words in which it is told. -/
  | other (text : String)
deriving DecidableEq, Inhabited

namespace Error

def message : Error → String
  | notFound => "No such file or directory (os error 2)"
  | notADirectory => "Not a directory (os error 20)"
  | isADirectory => "Is a directory (os error 21)"
  | nameTooLong => "File name too long (os error 36)"
  | notText => "stream did not contain valid UTF-8"
  | nulInName => "file name contained an unexpected NUL byte"
  | other text => text

end Error

/-- The files as a program sees them. -/
structure System where
  read : Path → Except Error (List UInt8)

namespace System

/-- The content of a file that has to be text. -/
def readText (files : System) (path : Path) : Except Error String :=
  match files.read path with
  | .error error => .error error
  | .ok bytes =>
    match Text.Utf8.decode? bytes with
    | some text => .ok text
    | none => .error .notText

/-- The files that were read already, each with what reading it gave; no other is there. -/
def ofRead (found : List (Path × Except Error (List UInt8))) : System :=
  ⟨fun path => (found.lookup path).getD (.error .notFound)⟩

end System

/-! ## A tree of files -/

/-- What stands under a name. -/
inductive Node where
  | file (content : List UInt8)
  | directory
deriving DecidableEq, Inhabited

/-- Files and directories by the names that lead to them from the current directory.  The
directories on the way to an entry need no entry of their own. -/
structure Tree where
  entries : List (List (List UInt8) × Node)
deriving DecidableEq, Inhabited

namespace Tree

/-- The longest name a file can have, in bytes. -/
def longestName : Nat := 255

/-- The longest path that is walked, in bytes. -/
def longestPath : Nat := 4095

/-- What stands at the end of these names. -/
def find? (tree : Tree) (names : List (List UInt8)) : Option Node :=
  match tree.entries.find? (·.1 = names) with
  | some (_, node) => some node
  | none =>
    if names = [] || tree.entries.any fun (entry, _) => names.isPrefixOf entry then some .directory
    else none

/-- A place that a walk has come to: inside the tree, or in a directory above it of which nothing
else is known. -/
inductive Place where
  | inside (names : List (List UInt8))
  | outside
deriving DecidableEq, Inhabited

/-- What stands at a place. -/
def nodeAt? (tree : Tree) : Place → Option Node
  | .inside names => tree.find? names
  | .outside => some .directory

/-- One step from a place. -/
def step (tree : Tree) (place : Place) (part : List UInt8) : Except Error Place :=
  match tree.nodeAt? place with
  | none => .error .notFound
  | some (.file _) => .error .notADirectory
  | some .directory =>
    if part = [] || part = Path.here then .ok place
    else if longestName < part.length then .error .nameTooLong
    else
      match place with
      | .outside => if part = Path.above then .ok .outside else .error .notFound
      | .inside names =>
        if part = Path.above then
          if names = [] then .ok .outside else .ok (.inside names.dropLast)
        else if (tree.find? (names ++ [part])).isSome then .ok (.inside (names ++ [part]))
        else .error .notFound

/-- The content at the end of a path. -/
def read (tree : Tree) (path : Path) : Except Error (List UInt8) :=
  if path.bytes.contains 0 then .error .nulInName
  else if path.isEmpty then .error .notFound
  else if longestPath < path.bytes.length then .error .nameTooLong
  else
    match path.parts.foldlM tree.step (if path.isAbsolute then .outside else .inside []) with
    | .error error => .error error
    | .ok place =>
      match tree.nodeAt? place with
      | some (.file content) => .ok content
      | some .directory => .error .isADirectory
      | none => .error .notFound

/-- The tree as a program sees it. -/
def system (tree : Tree) : System := ⟨tree.read⟩

end Tree
end File
end RegionalDial
