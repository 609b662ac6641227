/-
# Reading what was written: numbers and fields

A message is written field by field, and reading merges field after field, so the round trip of
a message comes down to one equation: merging the bytes of a field, and then the rest, is taking
the step for that field and then merging the rest (`Field.merge_encode`).  A repeated field is
that equation along a list (`Field.merge_repeated`).

A reader refuses a length of more than 64 bits.  No block of bytes in a memory is that long, but
a list can be, so the equations are about bytes that fit (`Fits`), and what stands inside bytes
that fit does so too.
-/
import RegionalDial.Wire.Field

namespace RegionalDial
namespace Wire

/-! ## 1. Lengths -/

/-- The length of the bytes is a number of 64 bits, as that of every block in a memory is. -/
def Fits (bytes : List UInt8) : Prop := bytes.length < Nat.pow 2 64

namespace Fits

variable {first rest : List UInt8}

theorem left (h : Fits (first ++ rest)) : Fits first := by
  unfold Fits at h ⊢
  rw [List.length_append] at h
  omega

theorem right (h : Fits (first ++ rest)) : Fits rest := by
  unfold Fits at h ⊢
  rw [List.length_append] at h
  omega

/-- What a field holds fits when the field does. -/
theorem chunk {number : Nat} {bytes : List UInt8} (h : Fits (Field.encode number bytes)) :
    Fits bytes := by
  rw [Field.encode] at h
  exact h.right

end Fits

/-! ## 2. Numbers -/

namespace Varint

theorem toNat_digit {n : Nat} (h : n < 256) : (UInt8.ofNat n).toNat = n := by
  rw [UInt8.toNat_ofNat']
  exact Nat.mod_eq_of_lt h

/-- With room for its digits, a number is read as it was written.  The induction is on the room,
and the bound is what leaves room for the digits above the first. -/
theorem decodeWithin_encode (room n : Nat) (rest : List UInt8) (h : n < Nat.pow 128 (room + 1)) :
    decodeWithin (room + 1) (encode n ++ rest) = some (n, rest) := by
  induction room generalizing n with
  | zero =>
    have hn : n < 128 := h
    rw [encode, if_pos hn, List.singleton_append, decodeWithin, toNat_digit (by omega), if_pos hn]
  | succ room ih =>
    rw [encode]
    split
    · rename_i hn
      rw [List.singleton_append, decodeWithin, toNat_digit (by omega), if_pos hn]
    · rename_i hn
      have hhigh : n / 128 < Nat.pow 128 (room + 1) := by
        change n < Nat.pow 128 (room + 1) * 128 at h
        omega
      have hdigit : (UInt8.ofNat (n % 128 + 128)).toNat = n % 128 + 128 :=
        toNat_digit (by omega)
      rw [List.cons_append, decodeWithin, hdigit, if_neg (by omega), ih _ hhigh]
      have hsum : n % 128 + 128 - 128 + 128 * (n / 128) = n := by omega
      simp only [Option.map_some, hsum]

/-- **A number of 64 bits is read as it was written**, and what follows it is left. -/
theorem decode?_encode {n : Nat} (h : n < Nat.pow 2 64) (rest : List UInt8) :
    decode? (encode n ++ rest) = some (n, rest) := by
  have hroom : n < Nat.pow 128 (9 + 1) := Nat.lt_trans h (by decide)
  rw [decode?, decodeWithin_encode 9 n rest hroom]
  simp only [Option.filter, h, decide_true, if_true]

end Varint

/-! ## 3. Fields -/

namespace Field

/-- A number that a field can have. -/
def IsNumber (number : Nat) : Prop := 1 ≤ number ∧ number < Nat.pow 2 29

instance (number : Nat) : Decidable (IsNumber number) := inferInstanceAs (Decidable (_ ∧ _))

section Reading

variable {number : Nat} {chunk rest : List UInt8}

theorem readKey_encode (hnumber : IsNumber number) (rest : List UInt8) :
    readKey (Varint.encode (number * 8 + 2) ++ rest) = some (⟨number, 2⟩, rest) := by
  obtain ⟨hpos, hlt⟩ := hnumber
  have hlt' : number < 536870912 := hlt
  have hkey : number * 8 + 2 < Nat.pow 2 64 := by
    change number * 8 + 2 < 18446744073709551616
    omega
  have hdiv : (number * 8 + 2) / 8 = number := by omega
  have hmod : (number * 8 + 2) % 8 = 2 := by omega
  have hkey32 : number * 8 + 2 < Nat.pow 2 32 := by
    change number * 8 + 2 < 4294967296
    omega
  rw [readKey, Varint.decode?_encode hkey]
  simp only [hdiv, hmod, hkey32, hpos, Nat.reduceLeDiff, and_self, if_true]

theorem take?_append (chunk rest : List UInt8) :
    take? chunk.length (chunk ++ rest) = some (chunk, rest) := by
  rw [take?, if_pos (by rw [List.length_append]; omega), List.take_left, List.drop_left]

/-- A field is read as it was written, and what follows it is left. -/
theorem read_encode (limit : Nat) (hnumber : IsNumber number) (hchunk : Fits chunk)
    (rest : List UInt8) :
    read limit (encode number chunk ++ rest) = some (⟨number, some chunk⟩, rest) := by
  rw [encode, List.append_assoc, List.append_assoc, read, readKey_encode hnumber]
  simp only [if_true, readChunk, Varint.decode?_encode hchunk, take?_append, Option.map_some]

theorem encode_ne_nil (number : Nat) (chunk : List UInt8) : encode number chunk ≠ [] := by
  rw [encode, Varint.encode]
  split <;> simp

theorem readAll_encode (limit : Nat) (hnumber : IsNumber number) (hchunk : Fits chunk)
    (rest : List UInt8) :
    readAll limit (encode number chunk ++ rest) =
      (readAll limit rest).map (⟨number, some chunk⟩ :: ·) := by
  have hread := read_encode limit hnumber hchunk rest
  cases hbytes : encode number chunk ++ rest with
  | nil => exact absurd (List.append_eq_nil_iff.mp hbytes).1 (encode_ne_nil number chunk)
  | cons byte tail =>
    rw [hbytes] at hread
    rw [readAll]
    split
    · rename_i hnone
      rw [hread] at hnone
      exact absurd hnone (by simp)
    · rename_i field rest' hsome
      rw [hread] at hsome
      obtain ⟨rfl, rfl⟩ := Prod.mk.inj (Option.some.inj hsome)
      rfl

end Reading

/-! ## 4. Messages -/

variable {α : Type} {limit number : Nat} {step : α → Field → Option α}

@[simp] theorem merge_nil (value : α) : merge limit step value [] = some value := by
  simp [merge, readAll]

/-- **A field first, and then the rest.** -/
theorem merge_encode (hnumber : IsNumber number) (value : α) {chunk rest : List UInt8}
    (hfits : Fits (encode number chunk ++ rest)) :
    merge limit step value (encode number chunk ++ rest) =
      (step value ⟨number, some chunk⟩).bind fun value => merge limit step value rest := by
  rw [merge, readAll_encode limit hnumber hfits.left.chunk]
  cases hrest : readAll limit rest with
  | none => cases hstep : step value ⟨number, some chunk⟩ <;> simp [merge, hrest]
  | some fields => simp [merge, hrest]

/-- A message of one field. -/
theorem merge_encode_single (hnumber : IsNumber number) (value : α) {chunk : List UInt8}
    (hfits : Fits (encode number chunk)) :
    merge limit step value (encode number chunk) = step value ⟨number, some chunk⟩ := by
  have hfits' : Fits (encode number chunk ++ []) := by rwa [List.append_nil]
  have h : merge limit step value (encode number chunk ++ []) = _ :=
    merge_encode hnumber value hfits'
  rw [List.append_nil] at h
  rw [h]
  cases step value ⟨number, some chunk⟩ with
  | none => rfl
  | some value => exact merge_nil value

/-- **A repeated field adds its items in order.**  The message holds a list, and the step for an
item that fits puts it at the list's end.  The induction is along the items. -/
theorem merge_repeated {γ : Type} (hnumber : IsNumber number) (make : List γ → α)
    (encodeItem : γ → List UInt8)
    (hstep : ∀ before item, Fits (encodeItem item) →
      step (make before) ⟨number, some (encodeItem item)⟩ = some (make (before ++ [item])))
    (items before : List γ)
    (hfits : Fits (items.flatMap fun item => encode number (encodeItem item))) :
    merge limit step (make before) (items.flatMap fun item => encode number (encodeItem item)) =
      some (make (before ++ items)) := by
  induction items generalizing before with
  | nil => simp
  | cons item items ih =>
    rw [List.flatMap_cons] at hfits ⊢
    rw [merge_encode hnumber (make before) hfits, hstep before item hfits.left.chunk,
      Option.bind_some, ih (before ++ [item]) hfits.right, List.append_assoc,
      List.singleton_append]

end Field
end Wire
end RegionalDial
