/-
# Points on a curve

The points that solve y² = x³ - 3x + b modulo a prime, and the point at infinity, form a group in
which the line through two points meets the curve a third time.  A private key is a number, and
its public key is that multiple of the curve's base point.  The two curves here are those of which
keys are taken.

Multiples are found bit by bit: double, and add the base point where the bit is set.  Division is
by Fermat's theorem: to the power of the prime less two a number becomes its inverse.
-/

namespace RegionalDial
namespace Certificate

/-! ## 1. Numbers in bytes -/

/-- The number in these bytes, the highest one first. -/
def numberOf (bytes : List UInt8) : Nat := bytes.foldl (fun n byte => n * 256 + byte.toNat) 0

/-- The number in so many bytes, the highest one first. -/
def bytesOf (width n : Nat) : List UInt8 :=
  (List.range width).reverse.map fun i => UInt8.ofNat (n / Nat.pow 256 i)

/-- The bits of these bytes, the highest one first. -/
def bitsOf (bytes : List UInt8) : List Bool :=
  bytes.flatMap fun byte => (List.range 8).reverse.map fun i => byte.toNat.testBit i

/-! ## 2. Curves -/

/-- A curve of keys. -/
structure Curve where
  /-- The name of the curve as an element in bytes. -/
  identifier : List UInt8
  /-- The bytes of a coordinate. -/
  width : Nat
  prime : Nat
  /-- The constant b. -/
  constant : Nat
  base : Nat × Nat
  /-- This multiple of the base point is the point at infinity, and no smaller one is. -/
  order : Nat
deriving DecidableEq

/-- A point by its coordinates; `none` is the point at infinity. -/
abbrev Point : Type := Option (Nat × Nat)

namespace Curve

/-- Is there a point of the curve at these coordinates? -/
def holds (curve : Curve) (p : Nat × Nat) : Bool :=
  p.2 * p.2 % curve.prime =
    (p.1 * p.1 * p.1 + 3 * (curve.prime - p.1) + curve.constant) % curve.prime

/-- The difference modulo the prime. -/
def minus (curve : Curve) (a b : Nat) : Nat :=
  (a + (curve.prime - b % curve.prime)) % curve.prime

/-- The inverse modulo the prime. -/
def inverse (curve : Curve) (a : Nat) : Nat :=
  (bitsOf (bytesOf curve.width (curve.prime - 2))).foldl
    (fun power bit =>
      let square := power * power % curve.prime
      if bit then square * a % curve.prime else square)
    1

/-- The sum of two points on a line of this slope: where the line meets the curve once more,
mirrored. -/
def along (curve : Curve) (slope : Nat) (p q : Nat × Nat) : Nat × Nat :=
  let x := curve.minus (curve.minus (slope * slope) p.1) q.1
  (x, curve.minus (slope * curve.minus p.1 x) p.2)

/-- The sum of two points. -/
def add (curve : Curve) : Point → Point → Point
  | none, q => q
  | p, none => p
  | some p, some q =>
    if p.1 = q.1 then
      if (p.2 + q.2) % curve.prime = 0 then none
      else
        let slope := 3 * curve.minus (p.1 * p.1) 1 * curve.inverse (2 * p.2) % curve.prime
        some (curve.along slope p q)
    else
      let slope := curve.minus q.2 p.2 * curve.inverse (curve.minus q.1 p.1) % curve.prime
      some (curve.along slope p q)

/-- The multiple of the base point by the number with these bits. -/
def multiple (curve : Curve) (bits : List Bool) : Point :=
  bits.foldl
    (fun sum bit =>
      let double := curve.add sum sum
      if bit then curve.add double (some curve.base) else double)
    none

/-- A point as it is kept in keys: the byte 4 and both coordinates. -/
def encode (curve : Curve) (p : Nat × Nat) : List UInt8 :=
  0x04 :: (bytesOf curve.width p.1 ++ bytesOf curve.width p.2)

/-- The public key of a private one, which is a positive number below the order in as many bytes
as a coordinate has. -/
def publicKey? (curve : Curve) (key : List UInt8) : Option (List UInt8) :=
  if key.length = curve.width && 0 < numberOf key && numberOf key < curve.order then
    (curve.multiple (bitsOf key)).map curve.encode
  else none

end Curve

/-! ## 3. The two curves -/

/-- The x of the base point of the smaller curve. -/
def base256x : Nat := 0x6B17D1F2E12C4247F8BCE6E563A440F277037D812DEB33A0F4A13945D898C296

/-- The y of the base point of the smaller curve. -/
def base256y : Nat := 0x4FE342E2FE1A7F9B8EE7EB4A7C0F9E162BCE33576B315ECECBB6406837BF51F5

/-- The curve over a prime of 256 bits. -/
def curve256 : Curve where
  identifier := [0x06, 0x08, 0x2A, 0x86, 0x48, 0xCE, 0x3D, 0x03, 0x01, 0x07]
  width := 32
  prime := 0xFFFFFFFF00000001000000000000000000000000FFFFFFFFFFFFFFFFFFFFFFFF
  constant := 0x5AC635D8AA3A93E7B3EBBD55769886BC651D06B0CC53B0F63BCE3C3E27D2604B
  base := (base256x, base256y)
  order := 0xFFFFFFFF00000000FFFFFFFFFFFFFFFFBCE6FAADA7179E84F3B9CAC2FC632551

/-- The prime of the larger curve. -/
def prime384 : Nat :=
  0xFFFFFFFFFFFFFFFFFFFFFFFFFFFFFFFFFFFFFFFFFFFFFFFFFFFFFFFFFFFFFFFEFFFFFFFF0000000000000000FFFFFFFF

/-- The constant of the larger curve. -/
def constant384 : Nat :=
  0xB3312FA7E23EE7E4988E056BE3F82D19181D9C6EFE8141120314088F5013875AC656398D8A2ED19D2A85C8EDD3EC2AEF

/-- The x of the base point of the larger curve. -/
def base384x : Nat :=
  0xAA87CA22BE8B05378EB1C71EF320AD746E1D3B628BA79B9859F741E082542A385502F25DBF55296C3A545E3872760AB7

/-- The y of the base point of the larger curve. -/
def base384y : Nat :=
  0x3617DE4A96262C6F5D9E98BF9292DC29F8F41DBD289A147CE9DA3113B5F0B8C00A60B1CE1D7E819D7A431D7C90EA0E5F

/-- The order of the larger curve. -/
def order384 : Nat :=
  0xFFFFFFFFFFFFFFFFFFFFFFFFFFFFFFFFFFFFFFFFFFFFFFFFC7634D81F4372DDF581A0DB248B0A77AECEC196ACCC52973

/-- The curve over a prime of 384 bits. -/
def curve384 : Curve where
  identifier := [0x06, 0x05, 0x2B, 0x81, 0x04, 0x00, 0x22]
  width := 48
  prime := prime384
  constant := constant384
  base := (base384x, base384y)
  order := order384

/-- The curves of which keys are taken. -/
def Curve.all : List Curve := [curve256, curve384]

example : ∀ curve ∈ Curve.all, curve.holds curve.base = true := by decide +kernel
example : ∀ curve ∈ Curve.all, numberOf (bytesOf curve.width curve.order) = curve.order := by
  decide +kernel

end Certificate
end RegionalDial
