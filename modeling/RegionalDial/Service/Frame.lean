/-
# Messages on a stream

A message travels in a frame: a flag byte, the length in four bytes with the high byte first, and
the message.  Only the flag 0 (not compressed) is taken, and a message may have at most 4 MiB.

A stream that stops between the length and the first byte of the message stops as well as one that
stops between two frames: the announced message is given up.
-/

namespace RegionalDial
namespace Frame

/-- Why a stream of frames is refused. -/
inductive Fault where
  /-- A frame announces more than the longest message taken. -/
  | tooLong
  /-- A frame is cut short, has another flag, or holds no message of the expected kind. -/
  | malformed
deriving DecidableEq, Inhabited

/-- The longest message that is taken. -/
def longest : Nat := 4194304

/-- A message in a frame. -/
def encode (message : List UInt8) : List UInt8 :=
  let n := message.length
  0 :: UInt8.ofNat (n / 16777216) :: UInt8.ofNat (n / 65536) :: UInt8.ofNat (n / 256)
    :: UInt8.ofNat n :: message

/-- The messages of a stream, read up to its end. -/
def readAll {α : Type} (decode : List UInt8 → Option α) (bytes : List UInt8) :
    Except Fault (List α) :=
  match bytes with
  | [] => .ok []
  | flag :: a :: b :: c :: d :: rest =>
    let length := ((a.toNat * 256 + b.toNat) * 256 + c.toNat) * 256 + d.toNat
    if flag ≠ 0 then .error .malformed
    else if longest < length then .error .tooLong
    else if 0 < length && rest.isEmpty then .ok []
    else if rest.length < length then .error .malformed
    else
      match decode (rest.take length) with
      | none => .error .malformed
      | some message =>
        match readAll decode (rest.drop length) with
        | .ok messages => .ok (message :: messages)
        | .error fault => .error fault
  | _ => .error .malformed
termination_by bytes.length
decreasing_by simp only [List.length_cons, List.length_drop]; omega

end Frame
end RegionalDial
