/-
# Values of a TOML document

What a document holds once it is read.  Of numbers and truth values only their presence is kept,
and of a date or a time too, for no table that is read here has any.  A table remembers how it
came about, which decides who may add to it.
-/

namespace RegionalDial
namespace Toml

/-- How a table came about. -/
inductive Origin where
  /-- It has a header of its own, or is the document, or an element of an array of tables. -/
  | header
  /-- It stands in the path of a header. -/
  | parent
  /-- It stands in the path of a dotted key. -/
  | dotted
  /-- It was written in braces, and nothing can be added to it. -/
  | braces
deriving DecidableEq, Inhabited

/-- A value. -/
inductive Value where
  | text (s : String)
  /-- A number or a truth value. -/
  | plain
  /-- A date, a time or both. -/
  | moment
  | array (items : List Value)
  | table (origin : Origin) (entries : List (String × Value))
  /-- An array of tables that is made of headers. -/
  | tables (elements : List (List (String × Value)))
deriving Inhabited

/-- The keys of a table with their values. -/
abbrev Entries : Type := List (String × Value)

namespace Entries

/-- The same entries with another value for a key. -/
def replace (entries : Entries) (key : String) (value : Value) : Entries :=
  entries.map fun (k, v) => if k = key then (k, value) else (k, v)

/-- The entries without a key. -/
def erase (entries : Entries) (key : String) : Entries := entries.filter (·.1 ≠ key)

/-! ## 1. Walking down a path -/

/-- Changes the table at the end of a path.  Tables that are missing on the way are made; an
array of tables is entered at its last element.  A dotted key may not enter a table that has a
header of its own. -/
def update {β : Type} (byDottedKey : Bool) (change : Origin → Entries → Option (Entries × β)) :
    List String → Origin → Entries → Option (Entries × β)
  | [], origin, entries => change origin entries
  | key :: path, _, entries =>
    match entries.lookup key with
    | none =>
      let origin := if byDottedKey then Origin.dotted else Origin.parent
      (update byDottedKey change path origin []).map fun (inner, b) =>
        (entries ++ [(key, .table origin inner)], b)
    | some (.table origin inner) =>
      if origin = .braces || (byDottedKey && origin = .header) then none
      else
        (update byDottedKey change path origin inner).map fun (inner, b) =>
          (replace entries key (.table origin inner), b)
    | some (.tables elements) =>
      match elements.getLast? with
      | none => none
      | some last =>
        (update byDottedKey change path .header last).map fun (last, b) =>
          (replace entries key (.tables (elements.dropLast ++ [last])), b)
    | some _ => none

/-- Adds a value under a key, which may be dotted: `path` is all of it but the last part.  The
table that a dotted key leads to has to come from dotted keys alone. -/
def put (origin : Origin) (entries : Entries) (path : List String) (key : String) (value : Value) :
    Option Entries :=
  (update true (fun origin entries =>
    if decide (origin = .dotted) = path.isEmpty then none
    else if (entries.lookup key).isSome then none
    else some (entries ++ [(key, value)], ())) path origin entries).map (·.1)

end Entries
end Toml
end RegionalDial
