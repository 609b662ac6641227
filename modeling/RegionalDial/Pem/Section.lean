/-
# Sections of a certificate bundle

A bundle is read line by line, where a line ends with a line feed or a carriage return.  A line
that opens a section names it; the lines up to the closing line of that name hold its bytes in
base 64.  Other lines outside sections are passed over.  Opening a section inside another one
replaces the name and keeps the lines gathered so far; a section of an unknown kind is dropped
unread.

Reading stops at the first fault: an opening line without its five closing dashes, a section of a
known kind that is no base 64, or an end inside a section.  What was read before it is kept, for
a key is usable when it stands before the fault.
-/
import RegionalDial.Pem.Base64
import RegionalDial.Text.Utf8

namespace RegionalDial
namespace Pem

open Text

/-! ## 1. Kinds of sections -/

/-- The sections that are read. -/
inductive Kind where
  | certificate | publicKey | rsaPrivateKey | privateKey | ecPrivateKey | revocationList
  | certificateRequest | helloConfig
deriving DecidableEq, Inhabited

namespace Kind

/-- The label between the dashes. -/
def label : Kind → String
  | certificate => "CERTIFICATE"
  | publicKey => "PUBLIC KEY"
  | rsaPrivateKey => "RSA PRIVATE KEY"
  | privateKey => "PRIVATE KEY"
  | ecPrivateKey => "EC PRIVATE KEY"
  | revocationList => "X509 CRL"
  | certificateRequest => "CERTIFICATE REQUEST"
  | helloConfig => "ECHCONFIG"

def all : List Kind :=
  [certificate, publicKey, rsaPrivateKey, privateKey, ecPrivateKey, revocationList,
    certificateRequest, helloConfig]

/-- The kind with this label. -/
def ofLabel? (label : List UInt8) : Option Kind :=
  all.find? fun kind => Utf8.encode kind.label == label

/-- Does a section of this kind hold a private key? -/
def isPrivateKey : Kind → Bool
  | rsaPrivateKey | privateKey | ecPrivateKey => true
  | _ => false

end Kind

/-- A section that was read. -/
structure Section where
  kind : Kind
  content : List UInt8
deriving DecidableEq, Inhabited

/-! ## 2. Lines -/

/-- Does this byte end a line? -/
def endsLine (byte : UInt8) : Bool := byte = 0x0A || byte = 0x0D

/-- The lines of a text, each with the byte that ends it. -/
def lines : List UInt8 → List (List UInt8)
  | [] => []
  | byte :: rest =>
    if endsLine byte then [byte] :: lines rest
    else
      match lines rest with
      | [] => [[byte]]
      | line :: more => (byte :: line) :: more

/-- `-----BEGIN ` -/
def opening : List UInt8 := Utf8.encode "-----BEGIN "

/-- The line that closes a section, which may go on. -/
def closing (label : List UInt8) : List UInt8 :=
  Utf8.encode "-----END " ++ label ++ Utf8.encode "-----"

/-- Dashes, and what may stand between and after them. -/
def isTrailer (byte : UInt8) : Bool :=
  byte = 0x2D || byte = 0x20 || byte = 0x0A || byte = 0x0D

/-- The label of an opening line.  From its end back over dashes, spaces and line ends there are
exactly five dashes, and the label stops before the first of them. -/
def openedLabel? (line : List UInt8) : Option (List UInt8) :=
  let trailer := (line.reverse.takeWhile isTrailer).reverse
  if trailer.count 0x2D = 5 then
    let beforeTrailer := line.length - trailer.length
    let beforeDashes := beforeTrailer + (trailer.takeWhile (· ≠ 0x2D)).length
    some ((line.take beforeDashes).drop opening.length)
  else none

/-! ## 3. Reading -/

/-- What reading a bundle gives: the sections up to its end or its first fault. -/
structure Reading where
  sections : List Section
  faultless : Bool
deriving DecidableEq, Inhabited

namespace Reading

/-- One more section in front. -/
def cons (head : Section) (reading : Reading) : Reading :=
  { reading with sections := head :: reading.sections }

end Reading

/-- A section that is open: its label and the lines gathered so far. -/
structure Opened where
  label : List UInt8
  gathered : List UInt8
deriving DecidableEq, Inhabited

/-- Reads lines inside the open section, if there is one. -/
def readLines : Option Opened → List (List UInt8) → Reading
  | none, [] => ⟨[], true⟩
  | some _, [] => ⟨[], false⟩
  | opened?, line :: rest =>
    if opening.isPrefixOf line then
      match openedLabel? line with
      | none => ⟨[], false⟩
      | some label => readLines (some ⟨label, (opened?.map Opened.gathered).getD []⟩) rest
    else
      match opened? with
      | none => readLines none rest
      | some opened =>
        if (closing opened.label).isPrefixOf line then
          match Kind.ofLabel? opened.label with
          | none => readLines none rest
          | some kind =>
            match Base64.decode? opened.gathered with
            | none => ⟨[], false⟩
            | some content => (readLines none rest).cons ⟨kind, content⟩
        else readLines (some { opened with gathered := opened.gathered ++ line }) rest

/-- Reads a bundle. -/
def read (bundle : List UInt8) : Reading := readLines none (lines bundle)

/-- The certificates of a bundle that has no fault. -/
def certificates? (bundle : List UInt8) : Option (List (List UInt8)) :=
  let reading := read bundle
  if reading.faultless then
    some ((reading.sections.filter (·.kind = .certificate)).map Section.content)
  else none

/-- The first private key, if it stands before the first fault. -/
def privateKey? (bundle : List UInt8) : Option Section :=
  (read bundle).sections.find? (·.kind.isPrivateKey)

end Pem
end RegionalDial
