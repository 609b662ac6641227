/-
# Text as bytes

A string is a list of bytes with one reading.  `encode` writes it, `decode?` reads it back and
refuses what is not well formed, and `decodeLossy` reads any bytes by putting U+FFFD in the
place of each maximal part that no well formed text starts with.

The two facts the rest of the library uses are `decode?_encode` and `encode_of_decode?`: the
bytes of a string determine it, and reading never changes a byte.  Bytes that are no text stay so
whatever text stands around them (`decode?_between`).
-/

namespace RegionalDial
namespace Text
namespace Utf8

/-! ## 1. Writing and strict reading -/

/-- The bytes of a string. -/
def encode (s : String) : List UInt8 := s.toByteArray.data.toList

/-- The string with exactly these bytes, if there is one. -/
def decode? (bytes : List UInt8) : Option String := String.fromUTF8? ⟨bytes.toArray⟩

theorem decode?_encode (s : String) : decode? (encode s) = some s := by
  have h : (⟨(encode s).toArray⟩ : ByteArray) = s.toByteArray := by simp [encode]
  simp only [decode?, h, String.fromUTF8?, s.isValidUTF8, dite_true]
  rfl

theorem encode_of_decode? {bytes : List UInt8} {s : String} (h : decode? bytes = some s) :
    encode s = bytes := by
  simp only [decode?, String.fromUTF8?] at h
  split at h
  · have h1 := Option.some.inj h
    subst h1
    simp [encode, String.fromUTF8]
  · exact absurd h (by simp)

theorem encode_inj {s t : String} (h : encode s = encode t) : s = t := by
  have h1 := decode?_encode s
  rw [h, decode?_encode t] at h1
  exact (Option.some.inj h1).symm

/-- The bytes of a string are those of its characters. -/
theorem encode_eq_flatMap (s : String) : encode s = s.toList.flatMap String.utf8EncodeChar := by
  have h : s.toByteArray = s.toList.utf8Encode := by
    rw [← String.toByteArray_ofList, String.ofList_toList]
  rw [encode, h, List.utf8Encode, List.data_toByteArray]

theorem encode_append (s t : String) : encode (s ++ t) = encode s ++ encode t := by
  simp only [encode_eq_flatMap, String.toList_append, List.flatMap_append]

/-- The bytes of a text are well formed. -/
theorem isSome_decode?_iff {bytes : List UInt8} :
    (decode? bytes).isSome = true ↔ (⟨bytes.toArray⟩ : ByteArray).IsValidUTF8 := by
  rw [decode?, String.fromUTF8?]
  split <;> simp [*]

/-- **Where a text is cut, both parts are texts or neither is.** -/
theorem isSome_decode?_cut {first second : List UInt8} {s : String}
    (h : encode s = first ++ second) : (decode? first).isSome = (decode? second).isSome := by
  let a : ByteArray := ⟨first.toArray⟩
  let b : ByteArray := ⟨second.toArray⟩
  have hbytes : s.toByteArray = a ++ b := by
    apply ByteArray.ext
    apply Array.ext'
    simpa [encode, a, b] using h
  have hsize : s.utf8ByteSize = a.size + b.size := by
    rw [← String.size_toByteArray, hbytes, ByteArray.size_append]
  have hend : (⟨a.size⟩ : String.Pos.Raw) ≤ s.rawEndPos := by
    rw [String.Pos.Raw.le_iff, String.byteIdx_rawEndPos, hsize]
    exact Nat.le_add_right _ _
  -- The cut is between two characters if the bytes before it are a text, and also if those after
  -- it are.
  have hfirst : String.Pos.Raw.IsValid s ⟨a.size⟩ ↔ a.IsValidUTF8 := by
    rw [String.Pos.Raw.isValid_iff_isValidUTF8_extract_zero, hbytes,
      ByteArray.extract_append_eq_left rfl]
    exact and_iff_right hend
  have hsecond : String.Pos.Raw.IsValid s ⟨a.size⟩ ↔ b.IsValidUTF8 := by
    rw [String.Pos.Raw.isValid_iff_isValidUTF8_extract_utf8ByteSize, hbytes,
      ByteArray.extract_append_eq_right rfl hsize]
    exact and_iff_right hend
  rw [Bool.eq_iff_iff, isSome_decode?_iff, isSome_decode?_iff, ← hfirst, ← hsecond]

/-- **Text before and after some bytes does not change whether they are a text.** -/
theorem decode?_between (before after : String) (bytes : List UInt8) :
    decode? (encode before ++ bytes ++ encode after) =
      (decode? bytes).map fun text => before ++ text ++ after := by
  cases hread : decode? bytes with
  | some text =>
    rw [← encode_of_decode? hread, ← encode_append, ← encode_append, decode?_encode]
    rfl
  | none =>
    rw [Option.map_none, ← Option.not_isSome_iff_eq_none]
    intro hsome
    obtain ⟨whole, hwhole⟩ := Option.isSome_iff_exists.mp hsome
    have hfront : (decode? (encode before ++ bytes)).isSome = true := by
      rw [isSome_decode?_cut (encode_of_decode? hwhole), decode?_encode, Option.isSome_some]
    obtain ⟨front, hfront⟩ := Option.isSome_iff_exists.mp hfront
    have hboth := isSome_decode?_cut (encode_of_decode? hfront)
    rw [decode?_encode, hread] at hboth
    exact absurd hboth (by simp)

/-- Every byte of a character beyond ASCII is 128 or more. -/
theorem le_of_mem_utf8EncodeChar {c : Char} (hc : 127 < c.val.toNat) {byte : UInt8}
    (h : byte ∈ String.utf8EncodeChar c) : 128 ≤ byte.toNat := by
  rw [String.utf8EncodeChar] at h
  simp only [if_neg (Nat.not_le.mpr hc)] at h
  have hlead {n : Nat} (hn : 128 ≤ n % 256) : 128 ≤ (UInt8.ofNat n).toNat := by
    rwa [UInt8.toNat_ofNat']
  split at h
  · simp only [List.mem_cons, List.not_mem_nil, or_false] at h
    rcases h with rfl | rfl <;> exact hlead (by omega)
  split at h
  · simp only [List.mem_cons, List.not_mem_nil, or_false] at h
    rcases h with rfl | rfl | rfl <;> exact hlead (by omega)
  · simp only [List.mem_cons, List.not_mem_nil, or_false] at h
    rcases h with rfl | rfl | rfl | rfl <;> exact hlead (by omega)

theorem utf8EncodeChar_ascii {c : Char} (hc : c.val.toNat ≤ 127) :
    String.utf8EncodeChar c = [UInt8.ofNat c.val.toNat] := by
  rw [String.utf8EncodeChar]
  exact if_pos hc

/-- **The byte of an ASCII character stands in no other character.** -/
theorem eq_of_mem_utf8EncodeChar {c d : Char} (hc : c.val.toNat ≤ 127)
    (h : UInt8.ofNat c.val.toNat ∈ String.utf8EncodeChar d) : d = c := by
  have hbyte : (UInt8.ofNat c.val.toNat).toNat = c.val.toNat := by
    rw [UInt8.toNat_ofNat']
    omega
  by_cases hd : d.val.toNat ≤ 127
  · rw [utf8EncodeChar_ascii hd, List.mem_singleton] at h
    have hvalue := congrArg UInt8.toNat h
    rw [hbyte, UInt8.toNat_ofNat'] at hvalue
    have hsame : d.val.toNat = c.val.toNat := by omega
    exact Char.toNat_inj.mp hsame
  · have hlarge := le_of_mem_utf8EncodeChar (Nat.not_le.mp hd) h
    omega

/-! ## 2. Reading any bytes -/

/-- The ranges that the bytes after `lead` must lie in; `none` for a byte that starts nothing. -/
def followers (lead : UInt8) : Option (List (UInt8 × UInt8)) :=
  if lead < 0x80 then some []
  else if lead < 0xC2 then none
  else if lead < 0xE0 then some [(0x80, 0xBF)]
  else if lead = 0xE0 then some [(0xA0, 0xBF), (0x80, 0xBF)]
  else if lead = 0xED then some [(0x80, 0x9F), (0x80, 0xBF)]
  else if lead < 0xF0 then some [(0x80, 0xBF), (0x80, 0xBF)]
  else if lead = 0xF0 then some [(0x90, 0xBF), (0x80, 0xBF), (0x80, 0xBF)]
  else if lead < 0xF4 then some [(0x80, 0xBF), (0x80, 0xBF), (0x80, 0xBF)]
  else if lead = 0xF4 then some [(0x80, 0x8F), (0x80, 0xBF), (0x80, 0xBF)]
  else none

/-- How many of the ranges the bytes fill, in order. -/
def filled : List (UInt8 × UInt8) → List UInt8 → Nat
  | (low, high) :: ranges, byte :: bytes =>
    if low ≤ byte ∧ byte ≤ high then filled ranges bytes + 1 else 0
  | _, _ => 0

/-- The character of a lead byte and the bytes that follow it. -/
def character (lead : UInt8) (rest : List UInt8) : Char :=
  let marker := match rest.length with
    | 0 => 0
    | 1 => 0xC0
    | 2 => 0xE0
    | _ => 0xF0
  Char.ofNat (rest.foldl (fun n byte => n * 64 + (byte.toNat - 0x80)) (lead.toNat - marker))

/-- The characters of any bytes, each maximal ill formed part read as U+FFFD. -/
def replaceInvalid : List UInt8 → List Char
  | [] => []
  | lead :: rest =>
    match followers lead with
    | none => Char.ofNat 0xFFFD :: replaceInvalid rest
    | some ranges =>
      let n := filled ranges rest
      (if n = ranges.length then character lead (rest.take n) else Char.ofNat 0xFFFD) ::
        replaceInvalid (rest.drop n)
termination_by bytes => bytes.length
decreasing_by all_goals simp only [List.length_cons, List.length_drop]; omega

/-- The text shown for any bytes. -/
def decodeLossy (bytes : List UInt8) : String :=
  (decode? bytes).getD (String.ofList (replaceInvalid bytes))

theorem decodeLossy_encode (s : String) : decodeLossy (encode s) = s := by
  simp [decodeLossy, decode?_encode]

end Utf8
end Text
end RegionalDial
