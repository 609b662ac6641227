/-
# Spans of time

A duration is a number of nanoseconds.  Its text uses the largest of the units s, ms, µs, ns of
which it holds at least one, and as many decimal places as it needs.
-/

namespace RegionalDial

/-- A span of time, in nanoseconds. -/
structure Duration where
  nanos : Nat
deriving DecidableEq, Inhabited

namespace Duration

def ofSeconds (n : Nat) : Duration := ⟨n * 1000000000⟩

def ofMillis (n : Nat) : Duration := ⟨n * 1000000⟩

/-- The number in decimal digits, with zeros in front up to `width` digits. -/
def padded (width n : Nat) : List Char :=
  let digits := Nat.toDigits 10 n
  List.replicate (width - digits.length) '0' ++ digits

/-- The fraction `n / 10 ^ places` after the point, without its trailing zeros; nothing, not even
the point, when all of it is zeros. -/
def fraction (places n : Nat) : List Char :=
  match ((padded places n).reverse.dropWhile (· == '0')).reverse with
  | [] => []
  | digits => '.' :: digits

/-- `n` counted in a unit of `10 ^ places`. -/
def inUnit (places : Nat) (unit : String) (n : Nat) : String :=
  String.ofList
    (Nat.toDigits 10 (n / Nat.pow 10 places) ++
      (if places = 0 then [] else fraction places (n % Nat.pow 10 places)) ++ unit.toList)

/-- The duration in the largest unit of which it holds at least one. -/
def text (d : Duration) : String :=
  if d.nanos ≥ 1000000000 then inUnit 9 "s" d.nanos
  else if d.nanos ≥ 1000000 then inUnit 6 "ms" d.nanos
  else if d.nanos ≥ 1000 then inUnit 3 "µs" d.nanos
  else inUnit 0 "ns" d.nanos

/-- The time until the first tick at or after the end of a limit, on a clock that ticks every
millisecond, when the limit begins `since` after a tick. -/
def toTick (limit since : Duration) : Duration :=
  ⟨(since.nanos + limit.nanos + 999999) / 1000000 * 1000000 - since.nanos⟩

instance : LE Duration := ⟨fun a b => a.nanos ≤ b.nanos⟩

instance (a b : Duration) : Decidable (a ≤ b) := inferInstanceAs (Decidable (a.nanos ≤ b.nanos))

/-- The tick never comes early, and less than a millisecond late. -/
theorem toTick_bounds (limit since : Duration) :
    limit ≤ limit.toTick since ∧ (limit.toTick since).nanos < limit.nanos + 1000000 := by
  change limit.nanos ≤ (since.nanos + limit.nanos + 999999) / 1000000 * 1000000 - since.nanos ∧
    (since.nanos + limit.nanos + 999999) / 1000000 * 1000000 - since.nanos <
      limit.nanos + 1000000
  omega

/-- Whole milliseconds that begin on a tick end on one. -/
theorem toTick_ofMillis (n m : Nat) : (ofMillis n).toTick (ofMillis m) = ofMillis n := by
  simp only [toTick, ofMillis, mk.injEq]
  omega

end Duration
end RegionalDial
