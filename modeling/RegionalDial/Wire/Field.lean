/-
# Fields of a message

The bytes of a message are a sequence of fields.  Each opens with a key, which holds the field's
number and how its payload is laid out: a variable-length number, eight bytes, a chunk with its
length in front, a group of fields up to a closing key of the same number, or four bytes.

Only chunks matter to the messages of this library, so reading keeps the bytes of a chunk and
drops every other payload once it is known to be whole.  Groups may nest; a limit counts the
levels that are still allowed.
-/
import RegionalDial.Wire.Varint

namespace RegionalDial
namespace Wire

/-- A field as it stands in a message.  `chunk` is `none` when the payload is laid out in another
way. -/
structure Field where
  number : Nat
  chunk : Option (List UInt8)
deriving DecidableEq, Inhabited

namespace Field

/-! ## 1. Writing -/

/-- A chunk under its number. -/
def encode (number : Nat) (chunk : List UInt8) : List UInt8 :=
  Varint.encode (number * 8 + 2) ++ Varint.encode chunk.length ++ chunk

/-! ## 2. Reading one field -/

/-- A field's number and the layout of its payload. -/
structure Key where
  number : Nat
  layout : Nat

/-- Reads a key.  It fits in 32 bits, its number is not 0 and its layout is one of the six. -/
def readKey (bytes : List UInt8) : Option (Key × List UInt8) :=
  match Varint.decode? bytes with
  | none => none
  | some (n, rest) =>
    if n < Nat.pow 2 32 ∧ 1 ≤ n / 8 ∧ n % 8 ≤ 5 then some (⟨n / 8, n % 8⟩, rest) else none

/-- The first `n` bytes and the others, if there are that many. -/
def take? (n : Nat) (bytes : List UInt8) : Option (List UInt8 × List UInt8) :=
  if n ≤ bytes.length then some (bytes.take n, bytes.drop n) else none

/-- Reads a chunk and its length. -/
def readChunk (bytes : List UInt8) : Option (List UInt8 × List UInt8) :=
  match Varint.decode? bytes with
  | none => none
  | some (length, rest) => take? length rest

/-- What follows a payload that is not a group. -/
def skipPlain (layout : Nat) (bytes : List UInt8) : Option (List UInt8) :=
  match layout with
  | 0 => (Varint.decode? bytes).map (·.2)
  | 1 => (take? 8 bytes).map (·.2)
  | 2 => (readChunk bytes).map (·.2)
  | 5 => (take? 4 bytes).map (·.2)
  | _ => none

theorem readKey_length {bytes rest : List UInt8} {key : Key}
    (h : readKey bytes = some (key, rest)) : rest.length < bytes.length := by
  unfold readKey at h
  split at h
  · simp at h
  · rename_i n tail hv
    split at h
    · simp only [Option.some.injEq, Prod.mk.injEq] at h
      exact h.2 ▸ Varint.decode?_length hv
    · simp at h

theorem take?_length {n : Nat} {bytes chunk rest : List UInt8}
    (h : take? n bytes = some (chunk, rest)) : rest.length ≤ bytes.length := by
  unfold take? at h
  split at h
  · simp only [Option.some.injEq, Prod.mk.injEq] at h
    simp [← h.2]
  · simp at h

theorem readChunk_length {bytes chunk rest : List UInt8}
    (h : readChunk bytes = some (chunk, rest)) : rest.length ≤ bytes.length := by
  unfold readChunk at h
  split at h
  · simp at h
  · rename_i length tail hv
    exact Nat.le_trans (take?_length h) (Nat.le_of_lt (Varint.decode?_length hv))

theorem skipPlain_length {layout : Nat} {bytes rest : List UInt8}
    (h : skipPlain layout bytes = some rest) : rest.length ≤ bytes.length := by
  unfold skipPlain at h
  split at h
  · obtain ⟨⟨n, tail⟩, h1, rfl⟩ := Option.map_eq_some_iff.mp h
    exact Nat.le_of_lt (Varint.decode?_length h1)
  · obtain ⟨⟨chunk, tail⟩, h1, rfl⟩ := Option.map_eq_some_iff.mp h
    exact take?_length h1
  · obtain ⟨⟨chunk, tail⟩, h1, rfl⟩ := Option.map_eq_some_iff.mp h
    exact readChunk_length h1
  · obtain ⟨⟨chunk, tail⟩, h1, rfl⟩ := Option.map_eq_some_iff.mp h
    exact take?_length h1
  · simp at h

/-- What follows the groups that are open, innermost first.  A field inside them needs a level
that is still allowed. -/
def skipGroups (limit : Nat) (opened : List Nat) (bytes : List UInt8) : Option (List UInt8) :=
  match opened with
  | [] => some bytes
  | innermost :: outer =>
    match _h : readKey bytes with
    | none => none
    | some (key, rest) =>
      if key.layout = 4 then
        if key.number = innermost then skipGroups limit outer rest else none
      else if limit ≤ opened.length then none
      else if key.layout = 3 then skipGroups limit (key.number :: opened) rest
      else
        match _h1 : skipPlain key.layout rest with
        | none => none
        | some rest => skipGroups limit opened rest
termination_by bytes.length
decreasing_by
  · exact readKey_length _h
  · exact readKey_length _h
  · exact Nat.lt_of_le_of_lt (skipPlain_length _h1) (readKey_length _h)

theorem skipGroups_length {limit : Nat} {opened : List Nat} {bytes rest : List UInt8}
    (h : skipGroups limit opened bytes = some rest) : rest.length ≤ bytes.length := by
  fun_induction skipGroups limit opened bytes with
  | case1 bytes => simp_all
  | case2 => simp at h
  | case3 bytes outer key tail hkey hlayout ih =>
    exact Nat.le_trans (ih h) (Nat.le_of_lt (readKey_length hkey))
  | case4 => simp at h
  | case5 bytes innermost outer key tail hkey hlayout hlimit =>
    rw [if_pos hlimit] at h
    simp at h
  | case6 bytes innermost outer key tail hkey hlayout hgroup hlimit ih =>
    rw [if_neg hlimit, if_pos hgroup] at h
    exact Nat.le_trans (ih h) (Nat.le_of_lt (readKey_length hkey))
  | case7 bytes innermost outer key tail hkey hlayout hgroup hskip hlimit =>
    rw [if_neg hlimit, if_neg hgroup] at h
    split at h
    · simp at h
    · simp_all
  | case8 bytes innermost outer key tail hkey hlayout hgroup tail' hskip hlimit ih =>
    rw [if_neg hlimit, if_neg hgroup] at h
    split at h
    · simp at h
    · rename_i rest' heq
      rw [hskip] at heq
      obtain rfl := Option.some.inj heq
      exact Nat.le_trans (ih h)
        (Nat.le_trans (skipPlain_length hskip) (Nat.le_of_lt (readKey_length hkey)))

/-- Reads one field and returns what follows it. -/
def read (limit : Nat) (bytes : List UInt8) : Option (Field × List UInt8) :=
  match readKey bytes with
  | none => none
  | some (key, rest) =>
    if key.layout = 2 then
      (readChunk rest).map fun (chunk, rest) => (⟨key.number, some chunk⟩, rest)
    else if key.layout = 3 then
      (skipGroups limit [key.number] rest).map fun rest => (⟨key.number, none⟩, rest)
    else (skipPlain key.layout rest).map fun rest => (⟨key.number, none⟩, rest)

theorem read_length {limit : Nat} {bytes rest : List UInt8} {field : Field}
    (h : read limit bytes = some (field, rest)) : rest.length < bytes.length := by
  unfold read at h
  split at h
  · simp at h
  · rename_i key tail hkey
    refine Nat.lt_of_le_of_lt ?_ (readKey_length hkey)
    split at h
    · obtain ⟨⟨chunk, tail'⟩, h1, h2⟩ := Option.map_eq_some_iff.mp h
      simp only [Prod.mk.injEq] at h2
      exact h2.2 ▸ readChunk_length h1
    · split at h
      · obtain ⟨tail', h1, h2⟩ := Option.map_eq_some_iff.mp h
        simp only [Prod.mk.injEq] at h2
        exact h2.2 ▸ skipGroups_length h1
      · obtain ⟨tail', h1, h2⟩ := Option.map_eq_some_iff.mp h
        simp only [Prod.mk.injEq] at h2
        exact h2.2 ▸ skipPlain_length h1

/-! ## 3. Reading a message -/

/-- The fields of a message, in order. -/
def readAll (limit : Nat) (bytes : List UInt8) : Option (List Field) :=
  match bytes with
  | [] => some []
  | bytes@(_ :: _) =>
    match _h : read limit bytes with
    | none => none
    | some (field, rest) => (readAll limit rest).map (field :: ·)
termination_by bytes.length
decreasing_by simp_wf; have := read_length _h; simp_all

/-- Merges the fields of a message into a value, one after the other. -/
def merge {α : Type} (limit : Nat) (step : α → Field → Option α) (value : α) (bytes : List UInt8) :
    Option α :=
  (readAll limit bytes).bind (·.foldlM step value)

end Field
end Wire
end RegionalDial
