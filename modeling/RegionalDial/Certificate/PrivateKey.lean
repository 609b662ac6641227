/-
# Private keys

A private key proves that a certificate is one's own, so it has to be the other half of the public
key in the certificate.  Keys on two curves and RSA keys are taken.  Either stands in a section of
its own kind, or in a section for any kind of key, where the algorithm is named beside it.

A key on a curve carries its public key, which is computed once more from the private one.  An RSA
key carries its modulus, which has to be the product of its two primes.
-/
import RegionalDial.Certificate.Curve
import RegionalDial.Certificate.Element
import RegionalDial.Pem.Section

namespace RegionalDial
namespace Certificate
namespace PrivateKey

/-! ## 1. Sections -/

/-- The elements of a key that stands beside its algorithm, perhaps with attributes behind it. -/
def besideAlgorithm? (algorithm : List UInt8) : List Element → Option (List Element)
  | ⟨.integer, [0]⟩ :: ⟨.sequence, named⟩ :: ⟨.octetString, key⟩ :: rest =>
    if named = algorithm && (rest = [] || rest.map Element.tag = [.part 0]) then
      Element.sequence? key
    else none
  | _ => none

/-- The elements of a key of this algorithm, whose own kind of section is `kind`. -/
def elements? (algorithm : List UInt8) (kind : Pem.Kind) (key : Pem.Section) :
    Option (List Element) :=
  match Element.sequence? key.content with
  | none => none
  | some elements =>
    if key.kind = kind then some elements
    else if key.kind = .privateKey then besideAlgorithm? algorithm elements
    else none

/-! ## 2. Keys on a curve -/

/-- The algorithm of the keys on a curve: the name they share, and the curve. -/
def algorithmOn (curve : Curve) : List UInt8 :=
  [0x06, 0x07, 0x2A, 0x86, 0x48, 0xCE, 0x3D, 0x02, 0x01] ++ curve.identifier

/-- The public key in the last part of a key on a curve. -/
def carried? (part : List UInt8) : Option (List UInt8) :=
  match Element.all? part with
  | some [⟨.bitString, unused :: bits⟩] => if unused = 0 then some bits else none
  | _ => none

/-- The number and the public key of a key on a curve.  The curve may be named in between. -/
def halves? (curve : Curve) : List Element → Option (List UInt8 × List UInt8)
  | [⟨.integer, [1]⟩, ⟨.octetString, number⟩, ⟨.part 1, part⟩] =>
    (carried? part).map fun point => (number, point)
  | [⟨.integer, [1]⟩, ⟨.octetString, number⟩, ⟨.part 0, named⟩, ⟨.part 1, part⟩] =>
    if named = curve.identifier then (carried? part).map fun point => (number, point) else none
  | _ => none

/-- Is the public key `point` on the curve the other half of the private key? -/
def matchesPoint (curve : Curve) (point : List UInt8) (key : Pem.Section) : Bool :=
  match (elements? (algorithmOn curve) .ecPrivateKey key).bind (halves? curve) with
  | some (number, carried) => carried = point && curve.publicKey? number = some point
  | none => false

/-! ## 3. RSA keys -/

/-- The algorithm of RSA keys. -/
def rsaAlgorithm : List UInt8 :=
  [0x06, 0x09, 0x2A, 0x86, 0x48, 0x86, 0xF7, 0x0D, 0x01, 0x01, 0x01, 0x05, 0x00]

/-- The moduli that are taken have 2048 to 4096 bits. -/
def isModulus (n : Nat) : Bool := Nat.pow 2 2047 ≤ n && n < Nat.pow 2 4096

/-- The smallest exponent that is taken. -/
def smallestExponent : Nat := 65537

/-- Is the RSA public key in these bytes the other half of the private key? -/
def matchesRsa (bytes : List UInt8) (key : Pem.Section) : Bool :=
  match elements? rsaAlgorithm .rsaPrivateKey key with
  | some [⟨.integer, [0]⟩, ⟨.integer, n⟩, ⟨.integer, e⟩, ⟨.integer, _⟩, ⟨.integer, p⟩,
      ⟨.integer, q⟩, ⟨.integer, _⟩, ⟨.integer, _⟩, ⟨.integer, _⟩] =>
    Element.sequence? bytes = some [⟨.integer, n⟩, ⟨.integer, e⟩] && isModulus (numberOf n) &&
      smallestExponent ≤ numberOf e && numberOf n = numberOf p * numberOf q
  | _ => false

/-! ## 4. Both halves -/

/-- Is the public key of a certificate the other half of the private key? -/
def belongsTo (publicKey : List UInt8) (key : Pem.Section) : Bool :=
  match Element.all? publicKey with
  | some [⟨.sequence, algorithm⟩, ⟨.bitString, unused :: bits⟩] =>
    unused = 0 &&
      ((algorithm = rsaAlgorithm && matchesRsa bits key) ||
        Curve.all.any fun curve => algorithm = algorithmOn curve && matchesPoint curve bits key)
  | _ => false

end PrivateKey
end Certificate
end RegionalDial
