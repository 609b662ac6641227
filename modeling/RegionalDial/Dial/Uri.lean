/-
# Addresses

What a target names: a scheme, an authority, a path and perhaps a query.  A fragment is read over.
A text that starts with a slash is a path alone; it can be read, though no one is reached by it.
The reading is narrower than the general grammar in the authority, where ports are not looked at
but colons and brackets are counted, and wider in the path, where some characters that ought to be
escaped may stand as they are.
-/

namespace RegionalDial

/-- Who is reached by an address, and how. -/
structure Origin where
  scheme : String
  authority : String
deriving DecidableEq, Inhabited

/-- An address. -/
structure Uri where
  /-- Missing where the address is a path alone. -/
  origin : Option Origin
  /-- What stands between the authority and the query; empty or from a slash on. -/
  path : String
  query : Option String
deriving DecidableEq, Inhabited

namespace Origin

/-- The origin as an address starts with it. -/
def text (origin : Origin) : String := origin.scheme ++ "://" ++ origin.authority

/-- The authority without the user before an `@`. -/
def address (origin : Origin) : String :=
  String.ofList (origin.authority.toList.reverse.takeWhile (· ≠ '@')).reverse

/-- The host: the address up to the closing bracket where it opens with one, else up to a
colon. -/
def host (origin : Origin) : List Char :=
  match origin.address.toList with
  | cs@('[' :: _) => cs.takeWhile (· ≠ ']') ++ [']']
  | cs => cs.takeWhile (· ≠ ':')

end Origin

namespace Uri

/-- The address in full.  An empty path is written as a slash. -/
def text (uri : Uri) : String :=
  let origin := match uri.origin with
    | none => ""
    | some origin => origin.text
  let path := if uri.path = "" then "/" else uri.path
  let query := match uri.query with
    | none => ""
    | some query => "?" ++ query
  origin ++ path ++ query

/-- The scheme, where the address has one. -/
def scheme? (uri : Uri) : Option String := uri.origin.map Origin.scheme

/-! ## 1. Characters -/

def isLetterOrDigit (c : Char) : Bool := c.isAlphanum

/-- Letters, digits, `+`, `-`, `.` and `~`. -/
def isSchemeChar (c : Char) : Bool :=
  isLetterOrDigit c || c = '+' || c = '-' || c = '.' || c = '~'

/-- The characters that may stand anywhere in an authority. -/
def isAuthorityChar (c : Char) : Bool :=
  isLetterOrDigit c || "!$&'()*+,-.:;=@_~[]".toList.contains c

/-- Is the code point of the character in one of the ranges, or beyond ASCII? -/
def inRangesOrBeyond (ranges : List (Nat × Nat)) (c : Char) : Bool :=
  0x80 ≤ c.toNat || ranges.any fun (low, high) => low ≤ c.toNat && c.toNat ≤ high

/-- The characters of a path. -/
def isPathChar : Char → Bool :=
  inRangesOrBeyond [(0x21, 0x22), (0x24, 0x3B), (0x3D, 0x3D), (0x40, 0x5F), (0x61, 0x7E)]

/-- The characters of a query. -/
def isQueryChar : Char → Bool :=
  inRangesOrBeyond [(0x21, 0x21), (0x24, 0x3B), (0x3D, 0x3D), (0x3F, 0x7E)]

/-- The characters that end an authority. -/
def endsAuthority (c : Char) : Bool := c = '/' || c = '?' || c = '#'

/-! ## 2. The scheme -/

/-- Does the text hold `://`? -/
def namesScheme : List Char → Bool
  | ':' :: '/' :: '/' :: _ => true
  | _ :: rest => namesScheme rest
  | [] => false

/-- The characters after `known`, if the text starts with it in any case. -/
def afterIgnoringCase? (known : String) (cs : List Char) : Option (List Char) :=
  let n := known.length
  if (cs.take n).map Char.toLower = known.toList then some (cs.drop n) else none

/-- The longest name a scheme may have. -/
def longestScheme : Nat := 64

/-- The scheme and what follows `://`.  The two common schemes are known in any case and written
in lower case; any other is kept as it is written. -/
def splitScheme? (cs : List Char) : Option (List Char × List Char) :=
  match afterIgnoringCase? "http://" cs with
  | some rest => some ("http".toList, rest)
  | none =>
    match afterIgnoringCase? "https://" cs with
    | some rest => some ("https".toList, rest)
    | none =>
      let name := cs.takeWhile isSchemeChar
      match cs.dropWhile isSchemeChar with
      | ':' :: '/' :: '/' :: rest => if name.length ≤ longestScheme then some (name, rest) else none
      | _ => none

/-! ## 3. The authority -/

/-- What a reader of an authority knows at a character. -/
structure AuthorityState where
  /-- Colons since the start, the last `@` or the `]`. -/
  colons : Nat
  opened : Bool
  closed : Bool
  /-- A `%` waits for an `@` or a `]` after it. -/
  percent : Bool
  /-- The character before was an `@`. -/
  afterAt : Bool
deriving DecidableEq, Inhabited

namespace AuthorityState

def start : AuthorityState := ⟨0, false, false, false, false⟩

/-- More colons than these are refused even where they will not count in the end. -/
def mostColons : Nat := 8

def step (state : AuthorityState) (c : Char) : Option AuthorityState :=
  let state' := { state with afterAt := c = '@' }
  if c = ':' then
    if mostColons ≤ state.colons then none else some { state' with colons := state.colons + 1 }
  else if c = '[' then
    if state.percent || state.opened then none else some { state' with opened := true }
  else if c = ']' then
    if !state.opened || state.closed then none
    else some { state' with closed := true, colons := 0, percent := false }
  else if c = '@' then some { state' with colons := 0, percent := false }
  else if c = '%' then some { state' with percent := true }
  else if isAuthorityChar c then some state'
  else none

def accepts (state : AuthorityState) : Bool :=
  state.opened == state.closed && state.colons ≤ 1 && !state.afterAt && !state.percent

end AuthorityState

/-- Is this the text of an authority? -/
def isAuthority (cs : List Char) : Bool :=
  match cs.foldlM AuthorityState.step AuthorityState.start with
  | none => false
  | some state => !cs.isEmpty && state.accepts

/-! ## 4. Path and query -/

/-- The path and the query of what follows the authority. -/
def pathAndQuery? (cs : List Char) : Option (List Char × Option (List Char)) :=
  let cs := cs.takeWhile (· ≠ '#')
  let path := cs.takeWhile (· ≠ '?')
  if !path.all isPathChar then none
  else
    match cs.dropWhile (· ≠ '?') with
    | [] => some (path, none)
    | _ :: query => if query.all isQueryChar then some (path, some query) else none

/-! ## 5. Reading -/

/-- The longest text that is read, in bytes. -/
def longest : Nat := 65534

/-- The address that has this origin and goes on with these characters. -/
def withRest? (origin : Option Origin) (cs : List Char) : Option Uri :=
  (pathAndQuery? cs).map fun (path, query) =>
    ⟨origin, String.ofList path, query.map String.ofList⟩

/-- Reads the characters of an address that names its origin. -/
def absolute? (cs : List Char) : Option Uri :=
  match splitScheme? cs with
  | none => none
  | some (scheme, rest) =>
    let authority := rest.takeWhile (!endsAuthority ·)
    if isAuthority authority then
      withRest? (some ⟨String.ofList scheme, String.ofList authority⟩)
        (rest.dropWhile (!endsAuthority ·))
    else none

/-- Reads an address. -/
def parse? (s : String) : Option Uri :=
  if longest < s.utf8ByteSize then none
  else
    match s.toList with
    | cs@('/' :: _) => withRest? none cs
    | cs => absolute? cs

/-! ## 6. Targets -/

/-- The address meant by a target, `target_uri`: as it is when it names a scheme, and else with the
scheme in use before it. -/
def addressOf (secure : Bool) (target : String) : String :=
  if namesScheme target.toList then target
  else (if secure then "https://" else "http://") ++ target

/-- Reads a target. -/
def ofTarget? (secure : Bool) (target : String) : Option Uri := parse? (addressOf secure target)

end Uri
end RegionalDial
