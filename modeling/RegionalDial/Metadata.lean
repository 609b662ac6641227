/-
# Headers of a call

A list of keys and values in which a key may stand more than once.  Keys are compared without
case and kept in lower case.
-/
import RegionalDial.Text.Utf8

namespace RegionalDial

/-- The value of a header, which need not be text. -/
structure HeaderValue where
  bytes : List UInt8
  /-- Is the value kept out of logs and of shared compression tables? -/
  sensitive : Bool
deriving DecidableEq, Inhabited

namespace HeaderValue

/-- The value with the bytes of a text. -/
def ofString (text : String) (sensitive : Bool) : HeaderValue := ⟨Text.Utf8.encode text, sensitive⟩

/-- The value as it is shown; bytes that are no text are replaced. -/
def display (value : HeaderValue) : String := Text.Utf8.decodeLossy value.bytes

/-- The bytes that a text value is made of: from a space to `~`, and tabs. -/
def isTextByte (byte : UInt8) : Bool := (0x20 ≤ byte && byte < 0x7F) || byte = 0x09

/-- Can the receiver read the value as text? -/
def isAscii (value : HeaderValue) : Bool := value.bytes.all isTextByte

/-- What the receiver reads. -/
def toText? (value : HeaderValue) : Option String :=
  if value.isAscii then Text.Utf8.decode? value.bytes else none

end HeaderValue

/-- The headers of a call, in order. -/
structure Metadata where
  entries : List (String × HeaderValue)
deriving DecidableEq, Inhabited

namespace Metadata

def empty : Metadata := ⟨[]⟩

/-- The form in which a key is kept. -/
def normalKey (key : String) : String := key.map Char.toLower

/-- Adds a value after those that the key has. -/
def append (metadata : Metadata) (key : String) (value : HeaderValue) : Metadata :=
  ⟨metadata.entries ++ [(normalKey key, value)]⟩

/-- Puts one value in the place of those that the key has. -/
def insert (metadata : Metadata) (key : String) (value : HeaderValue) : Metadata :=
  ⟨metadata.entries.filter (·.1 ≠ normalKey key) ++ [(normalKey key, value)]⟩

/-- The values of a key, in order. -/
def values (metadata : Metadata) (key : String) : List HeaderValue :=
  (metadata.entries.filter (·.1 = normalKey key)).map (·.2)

/-- The keys, each once, in the order of their first values. -/
def keys (metadata : Metadata) : List String := (metadata.entries.map (·.1)).eraseDups

@[simp] theorem values_insert_self (metadata : Metadata) (key : String) (value : HeaderValue) :
    (metadata.insert key value).values key = [value] := by
  simp [insert, values, List.filter_filter]

/-- A value that was put in leaves nothing behind when another one is put in its place. -/
theorem insert_insert (metadata : Metadata) (key : String) (first second : HeaderValue) :
    (metadata.insert key first).insert key second = metadata.insert key second := by
  simp [insert, List.filter_filter]

theorem values_insert_of_ne (metadata : Metadata) {key key' : String} (value : HeaderValue)
    (h : normalKey key' ≠ normalKey key) :
    (metadata.insert key value).values key' = metadata.values key' := by
  have hne : (decide (normalKey key = normalKey key')) = false := by simpa using Ne.symm h
  simp only [insert, values, List.filter_append, List.filter_filter, List.filter_cons, hne,
    Bool.false_eq_true, if_false, List.filter_nil, List.append_nil]
  congr 1
  apply List.filter_congr
  intro entry _
  by_cases he : entry.1 = normalKey key'
  · simp [he, h]
  · simp [he]

end Metadata
end RegionalDial
