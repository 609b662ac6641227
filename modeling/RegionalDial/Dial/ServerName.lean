/-
# Names a certificate can be checked against

With TLS the host of an address has to be a name: four decimal numbers, or a domain name.  A host
in brackets is neither.
-/
import RegionalDial.Text.Split

namespace RegionalDial
namespace ServerName

open Text

/-! ## 1. Four numbers -/

/-- A number up to 255 without leading zeros. -/
def isOctet (cs : List Char) : Bool :=
  !cs.isEmpty && cs.all Char.isDigit && cs.length ≤ 3 &&
    (cs.length = 1 || cs.head? ≠ some '0') &&
    cs.foldl (fun n c => n * 10 + (c.toNat - '0'.toNat)) 0 ≤ 255

def isIpv4 (cs : List Char) : Bool :=
  let parts := splitOn '.' cs
  parts.length = 4 && parts.all isOctet

/-! ## 2. Domain names -/

def isLabelChar (c : Char) : Bool := c.isAlphanum || c = '-' || c = '_'

/-- One to 63 letters, digits, `-` and `_`, the first and the last of them not `-`. -/
def isLabel (cs : List Char) : Bool :=
  !cs.isEmpty && cs.length ≤ 63 && cs.all isLabelChar && cs.head? ≠ some '-' &&
    cs.getLast? ≠ some '-'

/-- The labels of a name; a dot at its end adds none. -/
def labels (cs : List Char) : List (List Char) :=
  let parts := splitOn '.' cs
  if parts.getLast? = some [] then parts.dropLast else parts

/-- One to 253 characters that make up labels, the last of which is not a number. -/
def isDomain (cs : List Char) : Bool :=
  !cs.isEmpty && cs.length ≤ 253 && (labels cs).all isLabel &&
    (labels cs).getLast?.any fun label => !label.all Char.isDigit

/-- Can a certificate be checked against this host? -/
def isValid (host : List Char) : Bool := isIpv4 host || isDomain host

end ServerName
end RegionalDial
