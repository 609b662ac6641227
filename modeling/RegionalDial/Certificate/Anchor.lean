/-
# Certificates that can be trusted

A certificate is a signed sequence: what is signed, the algorithm, and the signature.  To serve as
an *anchor*, a root that servers are checked against, it has to be laid out as a certificate of
version 3 or of version 1.  Nothing is computed: names, keys and signatures are not looked at.  A
certificate that is presented has to be of version 3, and gives away the key in it.

Version 3 may end with extensions.  Six of them are understood; each may stand at most once, and
all but the key usage hold one sequence.  Any other extension is passed over.  The mark *critical*
forbids that in a certificate that is presented, but not in an anchor: an anchor is trusted as it
stands, not for what it says.
-/
import RegionalDial.Certificate.Element

namespace RegionalDial
namespace Certificate

/-- What a certificate is for. -/
inductive Use where
  /-- Others are checked against it. -/
  | anchor
  /-- It is shown to be checked. -/
  | presented
deriving DecidableEq, Inhabited

/-! ## 1. Extensions -/

/-- An extension of a certificate. -/
structure Extension where
  identifier : List UInt8
  critical : Bool
  value : List UInt8
deriving DecidableEq, Inhabited

namespace Extension

/-- The extension in a row of elements.  The mark may be left out, and is absent then. -/
def ofElements? : List Element → Option Extension
  | [⟨.objectIdentifier, identifier⟩, ⟨.octetString, value⟩] => some ⟨identifier, false, value⟩
  | [⟨.objectIdentifier, identifier⟩, ⟨.boolean, [mark]⟩, ⟨.octetString, value⟩] =>
    if mark = 0xFF then some ⟨identifier, true, value⟩
    else if mark = 0x00 then some ⟨identifier, false, value⟩
    else none
  | _ => none

/-- The extension in an element. -/
def ofElement? (element : Element) : Option Extension :=
  (element.elementsOf? .sequence).bind ofElements?

/-- The number of the key usage. -/
def keyUsage : UInt8 := 15

/-- The numbers of the extensions that are understood: key usage, alternative names, basic
constraints, name constraints, places of revocation lists, and extended key usage. -/
def understood : List UInt8 := [keyUsage, 17, 19, 30, 31, 37]

/-- The number of an extension that is understood. -/
def number? (extension : Extension) : Option UInt8 :=
  match extension.identifier with
  | [a, b, n] => if a = 0x55 && b = 0x1D && understood.contains n then some n else none
  | _ => none

/-- Can the extension stand in a certificate for this use? -/
def isAcceptable (use : Use) (extension : Extension) : Bool :=
  match extension.number? with
  | none => use = .anchor || !extension.critical
  | some n =>
    n = keyUsage ||
      match Element.all? extension.value with
      | some [⟨.sequence, _⟩] => true
      | _ => false

/-- Can the extensions stand together in a certificate for this use? -/
def areAcceptable (use : Use) (extensions : List Extension) : Bool :=
  let numbers := extensions.filterMap number?
  extensions.all (isAcceptable use) && numbers.eraseDups = numbers

/-- The extensions in the last part of a certificate. -/
def ofPart? (content : List UInt8) : Option (List Extension) :=
  match Element.sequence? content with
  | some elements => elements.mapM ofElement?
  | none => none

end Extension

/-! ## 2. Certificates -/

/-- A certificate as it is signed. -/
structure Signed where
  body : List UInt8
  algorithm : List UInt8
deriving DecidableEq, Inhabited

namespace Signed

/-- Reads a certificate.  The signature has to fill its last byte. -/
def ofBytes? (bytes : List UInt8) : Option Signed :=
  match Element.sequence? bytes with
  | some [⟨.sequence, body⟩, ⟨.sequence, algorithm⟩, ⟨.bitString, unused :: _⟩] =>
    if unused = 0 then some ⟨body, algorithm⟩ else none
  | _ => none

/-- Can these elements stand behind the key? -/
def mayEnd (use : Use) : List Element → Bool
  | [] => true
  | [⟨.part 3, content⟩] => (Extension.ofPart? content).any (Extension.areAcceptable use)
  | _ => false

/-- The key in a certificate of version 3.  There are version, serial number, algorithm, issuer,
validity, subject and key, and then perhaps extensions.  Version 3 is numbered 2, and the
algorithm is named a second time. -/
def keyOfVersion3? (use : Use) (certificate : Signed) : Option (List UInt8) :=
  match Element.all? certificate.body with
  | some (⟨.part 0, version⟩ :: ⟨.integer, _⟩ :: ⟨.sequence, algorithm⟩ :: ⟨.sequence, _⟩
      :: ⟨.sequence, _⟩ :: ⟨.sequence, _⟩ :: ⟨.sequence, key⟩ :: rest) =>
    if Element.all? version = some [⟨.integer, [2]⟩] && algorithm = certificate.algorithm &&
      mayEnd use rest then some key else none
  | _ => none

/-- Serial number, algorithm, issuer, validity, subject and key, without a version. -/
def isVersion1 (certificate : Signed) : Bool :=
  (Element.all? certificate.body).any fun elements =>
    elements.map Element.tag = .integer :: List.replicate 5 .sequence

end Signed

/-- Can the certificate serve as an anchor? -/
def isAnchor (bytes : List UInt8) : Bool :=
  (Signed.ofBytes? bytes).any fun certificate =>
    (certificate.keyOfVersion3? .anchor).isSome || certificate.isVersion1

/-- The key in a certificate that can be presented to a server. -/
def presentedKey? (bytes : List UInt8) : Option (List UInt8) :=
  (Signed.ofBytes? bytes).bind fun certificate => certificate.keyOfVersion3? .presented

end Certificate
end RegionalDial
