/-
# What the statements of a document build

Statements are taken in order.  A header closes the table before it and opens one; the pairs that
follow go into the open table.  A table has one header at most, and none if dotted keys made it.
-/
import RegionalDial.Toml.Reader

namespace RegionalDial
namespace Toml

/-- A document that is being built. -/
structure Builder where
  /-- What is closed. -/
  closed : Entries
  /-- The open table. -/
  opened : Entries
  /-- Where the open table goes: nowhere at first, when it is the document itself. -/
  place : Option (List String × String)
  /-- Is the open table an element of an array? -/
  isElement : Bool

namespace Builder

def start : Builder := ⟨[], [], none, false⟩

/-- Puts the open table in its place. -/
def close (builder : Builder) : Option Entries :=
  match builder.place with
  | none => some builder.opened
  | some (path, key) =>
    (Entries.update false (fun _ entries =>
      if builder.isElement then
        match entries.lookup key with
        | some (.tables elements) =>
          some (entries.replace key (.tables (elements ++ [builder.opened])), ())
        | _ => none
      else if (entries.lookup key).isSome then none
      else some (entries ++ [(key, .table .header builder.opened)], ()))
      path .header builder.closed).map (·.1)

/-- Opens the table of a header.  One that stands in the path of earlier headers only is taken up
with what it holds. -/
def openTable (closed : Entries) (path : List String) (key : String) : Option Builder :=
  (Entries.update false (fun _ entries =>
    match entries.lookup key with
    | none => some (entries, [])
    | some (.table .parent inner) => some (entries.erase key, inner)
    | some _ => none) path .header closed).map fun (closed, opened) =>
      ⟨closed, opened, some (path, key), false⟩

/-- Opens one more element of an array of tables. -/
def openElement (closed : Entries) (path : List String) (key : String) : Option Builder :=
  (Entries.update false (fun _ entries =>
    match entries.lookup key with
    | none => some (entries ++ [(key, .tables [])], ())
    | some (.tables _) => some (entries, ())
    | some _ => none) path .header closed).map fun (closed, _) =>
      ⟨closed, [], some (path, key), true⟩

/-- Takes one statement. -/
def step (builder : Builder) : Statement → Option Builder
  | .pair path key value =>
    (Entries.put .header builder.opened path key value).map fun opened => { builder with opened }
  | .header path key => builder.close.bind fun closed => openTable closed path key
  | .element path key => builder.close.bind fun closed => openElement closed path key

end Builder

/-- The entries of a document. -/
def parse? (document : String) : Option Entries :=
  (statements? document).bind fun statements =>
    (statements.foldlM Builder.step Builder.start).bind Builder.close

end Toml
end RegionalDial
