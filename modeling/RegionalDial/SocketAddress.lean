/-
# Addresses to listen on

An address of version 4 and a port, `127.0.0.1:9900`, or one of version 6 in brackets and a port,
`[::1]:9900`.  Names are not looked up.
-/

namespace RegionalDial

/-- Where a service listens. -/
structure SocketAddress where
  /-- Four bytes, or eight groups of 16 bits. -/
  groups : List Nat
  isVersion6 : Bool
  port : Nat
deriving DecidableEq, Inhabited

namespace SocketAddress

/-! ## 1. Numbers -/

/-- The value of a digit below the base. -/
def digit? (base : Nat) (c : Char) : Option Nat :=
  let value? :=
    if c.isDigit then some (c.toNat - '0'.toNat)
    else if 'a' ≤ c ∧ c ≤ 'f' then some (c.toNat - 'a'.toNat + 10)
    else if 'A' ≤ c ∧ c ≤ 'F' then some (c.toNat - 'A'.toNat + 10)
    else none
  value?.filter (· < base)

/-- Reads all digits that stand here.  There is at least one, at most `most` where that is given,
and the number is below `bound`. -/
def readNumber (base : Nat) (most : Option Nat) (zeros : Bool) (bound : Nat) (cs : List Char) :
    Option (Nat × List Char) :=
  let isDigit (c : Char) : Bool := (digit? base c).isSome
  let digits := cs.takeWhile isDigit
  let n := digits.foldl (fun n c => n * base + (digit? base c).getD 0) 0
  if digits.isEmpty || most.any (· < digits.length) || bound ≤ n then none
  else if !zeros && digits.head? = some '0' && 1 < digits.length then none
  else some (n, cs.dropWhile isDigit)

/-- What follows this character. -/
def readChar (c : Char) : List Char → Option (List Char)
  | c' :: rest => if c = c' then some rest else none
  | [] => none

/-! ## 2. Version 4 -/

def readOctet (cs : List Char) : Option (Nat × List Char) := readNumber 10 (some 3) false 256 cs

/-- Four numbers with points between them. -/
def readVersion4 (cs : List Char) : Option (List Nat × List Char) := do
  let (a, cs) ← readOctet cs
  let (b, cs) ← readOctet (← readChar '.' cs)
  let (c, cs) ← readOctet (← readChar '.' cs)
  let (d, cs) ← readOctet (← readChar '.' cs)
  return ([a, b, c, d], cs)

/-! ## 3. Version 6 -/

/-- Groups with colons between them, at most this many; the last two may be written as an address
of version 4, which ends them and is told. -/
def readGroups : Nat → Bool → List Char → (List Nat × Bool) × List Char
  | 0, _, cs => (([], false), cs)
  | most + 1, first, cs =>
    let behindColon := if first then some cs else readChar ':' cs
    match (if most = 0 then none else behindColon.bind readVersion4) with
    | some ([a, b, c, d], rest) => (([a * 256 + b, c * 256 + d], true), rest)
    | _ =>
      match behindColon.bind (readNumber 16 (some 4) true 65536) with
      | none => (([], false), cs)
      | some (group, rest) =>
        let ((groups, embedded), rest) := readGroups most false rest
        ((group :: groups, embedded), rest)

/-- Eight groups, or fewer with two colons in the place of at least one group of zeros. -/
def readVersion6 (cs : List Char) : Option (List Nat × List Char) := do
  let ((head, embedded), cs) := readGroups 8 true cs
  if head.length = 8 then return (head, cs)
  if embedded then none
  let cs ← readChar ':' (← readChar ':' cs)
  let ((tail, _), cs) := readGroups (7 - head.length) true cs
  return (head ++ List.replicate (8 - head.length - tail.length) 0 ++ tail, cs)

/-- What follows the number of a scope, if one is given. -/
def readScope (cs : List Char) : Option (List Char) :=
  match cs with
  | '%' :: rest => (readNumber 10 none true (Nat.pow 2 32) rest).map (·.2)
  | _ => some cs

/-! ## 4. With a port -/

def readPort (cs : List Char) : Option (Nat × List Char) := do
  readNumber 10 none true 65536 (← readChar ':' cs)

/-- Reads an address with its port. -/
def parse? (s : String) : Option SocketAddress := do
  let cs := s.toList
  match readVersion4 cs with
  | some (groups, rest) =>
    let (port, rest) ← readPort rest
    if rest = [] then return ⟨groups, false, port⟩ else none
  | none =>
    let (groups, rest) ← readVersion6 (← readChar '[' cs)
    let (port, rest) ← readPort (← readChar ']' (← readScope rest))
    if rest = [] then return ⟨groups, true, port⟩ else none

/-- Does the address belong to every host: a loopback address, or any address at all? -/
def isEveryHosts (address : SocketAddress) : Bool :=
  if address.isVersion6 then address.groups.dropLast.all (· = 0) && address.groups.getLastD 0 ≤ 1
  else address.groups.head? = some 127 || address.groups.all (· = 0)

end SocketAddress
end RegionalDial
