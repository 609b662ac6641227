/-
# Paths

A path is a list of bytes and need not be text.  Two paths name the same place when their
components agree: repeated slashes, a slash at the end and a `.` that is not at the start do not
count, while `..` does.
-/
import RegionalDial.Text.Split
import RegionalDial.Text.Utf8

namespace RegionalDial

/-- A path. -/
structure Path where
  bytes : List UInt8
deriving DecidableEq, Inhabited

namespace Path

/-- The path with the bytes of a text. -/
def ofString (s : String) : Path := ⟨Text.Utf8.encode s⟩

/-- The path as it is shown; bytes that are no text are replaced. -/
def display (path : Path) : String := Text.Utf8.decodeLossy path.bytes

def isEmpty (path : Path) : Bool := path.bytes.isEmpty

/-- The slash. -/
def separator : UInt8 := 0x2F

/-- The name `.` -/
def here : List UInt8 := [0x2E]

/-- The name `..` -/
def above : List UInt8 := [0x2E, 0x2E]

/-- The names between the slashes, some of which may be empty. -/
def parts (path : Path) : List (List UInt8) := Text.splitOn separator path.bytes

def isAbsolute (path : Path) : Bool := path.bytes.head? = some separator

/-- A step of a path. -/
inductive Component where
  | root
  /-- A `.` at the start. -/
  | here
  | name (bytes : List UInt8)
deriving DecidableEq, Inhabited

/-- The steps of a path. -/
def components (path : Path) : List Component :=
  let start :=
    if path.isAbsolute then [Component.root]
    else if path.parts.head? = some here then [Component.here]
    else []
  start ++ (path.parts.filter fun part => !part.isEmpty && part ≠ here).map Component.name

/-- Do the two paths have the same components? -/
def same (a b : Path) : Bool := a.components == b.components

end Path
end RegionalDial
