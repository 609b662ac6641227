/-
# The status of a call

Every call ends with a status: a code and a message.  The codes are the seventeen of gRPC; any
other number counts as *unknown*.
-/
import RegionalDial.Text.Quoted

namespace RegionalDial

/-- The outcome of a call. -/
inductive StatusCode where
  | ok | cancelled | unknown | invalidArgument | deadlineExceeded | notFound | alreadyExists
  | permissionDenied | resourceExhausted | failedPrecondition | aborted | outOfRange
  | unimplemented | internal | unavailable | dataLoss | unauthenticated
deriving DecidableEq, Inhabited

namespace StatusCode

/-- The codes in the order of their numbers, from 0. -/
def all : List StatusCode :=
  [ok, cancelled, unknown, invalidArgument, deadlineExceeded, notFound, alreadyExists,
    permissionDenied, resourceExhausted, failedPrecondition, aborted, outOfRange, unimplemented,
    internal, unavailable, dataLoss, unauthenticated]

/-- The number a code is sent as. -/
def number (code : StatusCode) : Nat := all.idxOf code

/-- The code a number stands for. -/
def ofNumber (n : Int) : StatusCode :=
  if 0 ≤ n then all.getD n.toNat unknown else unknown

/-- The name of a code. -/
def name : StatusCode → String
  | ok => "Ok"
  | cancelled => "Cancelled"
  | unknown => "Unknown"
  | invalidArgument => "InvalidArgument"
  | deadlineExceeded => "DeadlineExceeded"
  | notFound => "NotFound"
  | alreadyExists => "AlreadyExists"
  | permissionDenied => "PermissionDenied"
  | resourceExhausted => "ResourceExhausted"
  | failedPrecondition => "FailedPrecondition"
  | aborted => "Aborted"
  | outOfRange => "OutOfRange"
  | unimplemented => "Unimplemented"
  | internal => "Internal"
  | unavailable => "Unavailable"
  | dataLoss => "DataLoss"
  | unauthenticated => "Unauthenticated"

theorem ofNumber_number (code : StatusCode) : ofNumber code.number = code := by
  cases code <;> rfl

/-- Only the number 12 stands for a service that is not there. -/
theorem ofNumber_eq_unimplemented_iff {n : Int} : ofNumber n = unimplemented ↔ n = 12 := by
  constructor
  · intro h
    unfold ofNumber at h
    split at h
    · by_cases hlt : n.toNat < 17
      · have : n = (n.toNat : Int) := by omega
        revert h
        rw [this, Int.toNat_natCast]
        generalize n.toNat = m at hlt
        intro h
        match m, hlt with
        | 12, _ => rfl
        | 0, _ | 1, _ | 2, _ | 3, _ | 4, _ | 5, _ | 6, _ | 7, _ | 8, _ | 9, _ | 10, _ | 11, _
        | 13, _ | 14, _ | 15, _ | 16, _ => exact absurd h (by decide)
        | m + 17, hlt => omega
      · have hlen : all.length ≤ n.toNat := by simp only [all, List.length]; omega
        rw [List.getD_eq_getElem?_getD, List.getElem?_eq_none hlen] at h
        exact absurd h (by decide)
    · exact absurd h (by decide)
  · rintro rfl
    rfl

end StatusCode

/-- How a call ended. -/
structure Status where
  code : StatusCode
  message : String
deriving DecidableEq, Inhabited

namespace Status

/-- The status in one line.  No details and no headers came with it. -/
def text (status : Status) : String :=
  s!"status: {status.code.name}, message: {Text.Quoted.quote status.message}, details: [], " ++
    "metadata: MetadataMap \x7b headers: \x7b\x7d \x7d"

end Status
end RegionalDial
