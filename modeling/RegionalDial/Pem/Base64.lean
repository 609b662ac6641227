/-
# Bytes in base 64

Three bytes are written as four symbols.  A reader skips blanks, takes padding or its absence, and
does not look at the bits that a short last group leaves over.
-/

namespace RegionalDial
namespace Base64

/-! ## 1. The alphabet -/

/-- The byte that stands for `=`. -/
def pad : UInt8 := 0x3D

/-- The symbol of a number below 64. -/
def symbol (n : Nat) : UInt8 :=
  if n < 26 then UInt8.ofNat (0x41 + n)
  else if n < 52 then UInt8.ofNat (0x61 + (n - 26))
  else if n < 62 then UInt8.ofNat (0x30 + (n - 52))
  else if n = 62 then 0x2B
  else 0x2F

/-- The number a symbol stands for. -/
def value? (c : UInt8) : Option Nat :=
  if 0x41 ≤ c ∧ c ≤ 0x5A then some (c.toNat - 0x41)
  else if 0x61 ≤ c ∧ c ≤ 0x7A then some (c.toNat - 0x61 + 26)
  else if 0x30 ≤ c ∧ c ≤ 0x39 then some (c.toNat - 0x30 + 52)
  else if c = 0x2B then some 62
  else if c = 0x2F then some 63
  else none

/-- Tab, line feed, vertical tab, form feed, carriage return and space. -/
def isBlank (c : UInt8) : Bool := (0x09 ≤ c && c ≤ 0x0D) || c = 0x20

theorem value?_symbol {n : Nat} (h : n < 64) : value? (symbol n) = some n := by
  revert n
  decide

theorem isBlank_symbol {n : Nat} (h : n < 64) : isBlank (symbol n) = false := by
  revert n
  decide

/-! ## 2. Writing -/

/-- The symbols of some bytes, with or without padding. -/
def encode (padded : Bool) : List UInt8 → List UInt8
  | [] => []
  | [a] =>
    [symbol (a.toNat / 4), symbol (a.toNat % 4 * 16)] ++ if padded then [pad, pad] else []
  | [a, b] =>
    [symbol (a.toNat / 4), symbol (a.toNat % 4 * 16 + b.toNat / 16), symbol (b.toNat % 16 * 4)] ++
      if padded then [pad] else []
  | a :: b :: c :: rest =>
    symbol (a.toNat / 4) :: symbol (a.toNat % 4 * 16 + b.toNat / 16) ::
      symbol (b.toNat % 16 * 4 + c.toNat / 64) :: symbol (c.toNat % 64) :: encode padded rest

/-! ## 3. Reading -/

/-- The byte of two symbols. -/
def one (a b : Nat) : UInt8 := UInt8.ofNat (a * 4 + b / 16)

/-- The second byte of three symbols. -/
def two (b c : Nat) : UInt8 := UInt8.ofNat (b % 16 * 16 + c / 4)

/-- The third byte of four symbols. -/
def three (c d : Nat) : UInt8 := UInt8.ofNat (c % 4 * 64 + d)

/-- The bytes of symbols without blanks between them. -/
def decodeSymbols : List UInt8 → Option (List UInt8)
  | [] => some []
  | [_] => none
  | [a, b] => do return [one (← value? a) (← value? b)]
  | [a, b, c] => do
    let second ← value? b
    let third ← value? c
    return [one (← value? a) second, two second third]
  | [a, b, c, d] => do
    let first ← value? a
    let second ← value? b
    if d = pad then
      if c = pad then return [one first second]
      let third ← value? c
      return [one first second, two second third]
    let third ← value? c
    return [one first second, two second third, three third (← value? d)]
  | a :: b :: c :: d :: rest => do
    let first ← value? a
    let second ← value? b
    let third ← value? c
    let fourth ← value? d
    return one first second :: two second third :: three third fourth :: (← decodeSymbols rest)

/-- The bytes written in base 64, blanks skipped. -/
def decode? (text : List UInt8) : Option (List UInt8) :=
  decodeSymbols (text.filter fun c => !isBlank c)

end Base64
end RegionalDial
