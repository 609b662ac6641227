/-
# Variable-length numbers

A number in base 128, the low digit first.  Every byte but the last has its high bit set.  A
reader takes at most ten bytes and a value below 2^64; it accepts leading zero digits, which the
writer never makes.
-/

namespace RegionalDial
namespace Wire
namespace Varint

/-- The shortest form of a number. -/
def encode (n : Nat) : List UInt8 :=
  if n < 128 then [UInt8.ofNat n] else UInt8.ofNat (n % 128 + 128) :: encode (n / 128)

/-- Reads a number of at most `room` bytes and returns what follows it. -/
def decodeWithin : Nat → List UInt8 → Option (Nat × List UInt8)
  | 0, _ => none
  | _ + 1, [] => none
  | room + 1, byte :: rest =>
    if byte.toNat < 128 then some (byte.toNat, rest)
    else (decodeWithin room rest).map fun (high, rest) => (byte.toNat - 128 + 128 * high, rest)

/-- Reads a number and returns what follows it. -/
def decode? (bytes : List UInt8) : Option (Nat × List UInt8) :=
  (decodeWithin 10 bytes).filter fun (n, _) => n < Nat.pow 2 64

theorem decodeWithin_length {room : Nat} {bytes rest : List UInt8} {n : Nat}
    (h : decodeWithin room bytes = some (n, rest)) : rest.length < bytes.length := by
  induction room generalizing bytes rest n with
  | zero => simp [decodeWithin] at h
  | succ room ih =>
    cases bytes with
    | nil => simp [decodeWithin] at h
    | cons byte tail =>
      simp only [decodeWithin] at h
      split at h
      · simp only [Option.some.injEq, Prod.mk.injEq] at h
        simp [h.2]
      · simp only [Option.map_eq_some_iff, Prod.mk.injEq, Prod.exists] at h
        obtain ⟨high, tail', h1, -, h2⟩ := h
        have := ih h1
        subst h2
        simp only [List.length_cons]
        omega

/-- Reading consumes at least one byte. -/
theorem decode?_length {bytes rest : List UInt8} {n : Nat} (h : decode? bytes = some (n, rest)) :
    rest.length < bytes.length := by
  simp only [decode?, Option.filter_eq_some_iff] at h
  exact decodeWithin_length h.1

end Varint
end Wire
end RegionalDial
