/-
# Nested elements

The notation in which certificates and keys are kept.  An element is a tag, the length of its
content, and the content; the content of a sequence is a row of elements again.  Every length has
one spelling, the shortest, and an element that is read here holds fewer than 65535 bytes, so a
length takes three bytes at most.
-/

namespace RegionalDial
namespace Certificate

/-- What an element holds. -/
inductive Tag where
  | boolean | integer | bitString | octetString | objectIdentifier | sequence
  /-- An optional part of the sequence around it, known by this number. -/
  | part (number : Nat)
  | other (byte : UInt8)
deriving DecidableEq, Inhabited

namespace Tag

/-- The tag in a byte.  A tag that would go on in the next byte is not read. -/
def ofByte? (byte : UInt8) : Option Tag :=
  let n := byte.toNat
  if n % 32 = 31 then none
  else if n = 0x01 then some boolean
  else if n = 0x02 then some integer
  else if n = 0x03 then some bitString
  else if n = 0x04 then some octetString
  else if n = 0x06 then some objectIdentifier
  else if n = 0x30 then some sequence
  else if 0xA0 ≤ n && n < 0xBF then some (part (n - 0xA0))
  else some (other byte)

end Tag

/-- A tag and its content. -/
structure Element where
  tag : Tag
  content : List UInt8
deriving DecidableEq, Inhabited

namespace Element

/-! ## 1. One element -/

/-- A content has fewer bytes than these. -/
def tooLong : Nat := 65535

/-- The number in two bytes, the high one first. -/
def twoBytes (high low : UInt8) : Nat := high.toNat * 256 + low.toNat

/-- Reads a length in its shortest spelling. -/
def length? : List UInt8 → Option (Nat × List UInt8)
  | [] => none
  | first :: rest =>
    if first.toNat < 0x80 then some (first.toNat, rest)
    else
      match first.toNat, rest with
      | 0x81, a :: rest => if 0x80 ≤ a.toNat then some (a.toNat, rest) else none
      | 0x82, a :: b :: rest =>
        if 0x100 ≤ twoBytes a b && twoBytes a b < tooLong then some (twoBytes a b, rest) else none
      | _, _ => none

/-- Reads the first element. -/
def first? : List UInt8 → Option (Element × List UInt8)
  | [] => none
  | byte :: rest =>
    match Tag.ofByte? byte, length? rest with
    | some tag, some (n, rest) =>
      if n ≤ rest.length then some (⟨tag, rest.take n⟩, rest.drop n) else none
    | _, _ => none

theorem length?_length {bytes rest : List UInt8} {n : Nat} (h : length? bytes = some (n, rest)) :
    rest.length < bytes.length := by
  unfold length? at h
  split at h
  · simp at h
  · split at h
    · simp only [Option.some.injEq, Prod.mk.injEq] at h
      simp [← h.2]
    · split at h
      · split at h
        · simp only [Option.some.injEq, Prod.mk.injEq] at h
          simp only [← h.2, List.length_cons]
          omega
        · simp at h
      · split at h
        · simp only [Option.some.injEq, Prod.mk.injEq] at h
          simp only [← h.2, List.length_cons]
          omega
        · simp at h
      · simp at h

theorem first?_length {bytes rest : List UInt8} {element : Element}
    (h : first? bytes = some (element, rest)) : rest.length < bytes.length := by
  unfold first? at h
  split at h
  · simp at h
  · split at h
    · rename_i hn
      split at h
      · simp only [Option.some.injEq, Prod.mk.injEq] at h
        have := length?_length hn
        simp only [← h.2, List.length_drop, List.length_cons]
        omega
      · simp at h
    · simp at h

/-! ## 2. Rows of elements -/

/-- Reads the elements that make up the bytes. -/
def all? (bytes : List UInt8) : Option (List Element) :=
  match bytes with
  | [] => some []
  | byte :: rest =>
    match _h : first? (byte :: rest) with
    | none => none
    | some (element, rest) => (all? rest).map (element :: ·)
termination_by bytes.length
decreasing_by exact first?_length _h

/-- The content, if the element has this tag. -/
def contentOf? (tag : Tag) (element : Element) : Option (List UInt8) :=
  if element.tag = tag then some element.content else none

/-- The elements inside, if the element has this tag. -/
def elementsOf? (tag : Tag) (element : Element) : Option (List Element) :=
  (element.contentOf? tag).bind all?

/-- The elements inside the one sequence that makes up the bytes. -/
def sequence? (bytes : List UInt8) : Option (List Element) :=
  match all? bytes with
  | some [element] => element.elementsOf? .sequence
  | _ => none

example : all? [0x30, 0x03, 0x02, 0x01, 0x05] = some [⟨.sequence, [0x02, 0x01, 0x05]⟩] := by
  decide +kernel
example : sequence? [0x30, 0x03, 0x02, 0x01, 0x05] = some [⟨.integer, [0x05]⟩] := by
  decide +kernel
example : all? [0x02, 0x81, 0x05, 1, 2, 3, 4, 5] = none := by decide +kernel

end Element
end Certificate
end RegionalDial
