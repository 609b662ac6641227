/-
# Why a connection is not opened

An endpoint can be refused before anything is sent, because its address cannot be read or because
the TLS settings do not fit it, and it can be tried without success.  A token that cannot stand in
a header is refused where it is made.
-/
import RegionalDial.Foreign

namespace RegionalDial
namespace Dial

/-- Why an endpoint cannot be dialed, `DialError`. -/
inductive Error where
  | invalidEndpoint (target : String)
  | tls (target : String)
  | connect (target : String)
  | invalidToken
deriving DecidableEq, Inhabited

namespace Error

/-- The fault below, where there is one. -/
def cause? : Error → Option TransportFault
  | invalidEndpoint _ => some .invalidUri
  | tls _ | connect _ => some .other
  | invalidToken => none

/-- The fault is told at the end, in its own words. -/
def message (others : ForeignErrors) (error : Error) : String :=
  let told (fault : TransportFault) := (others.transport fault).message
  match error with
  | invalidEndpoint target => s!"invalid endpoint {target}: {told .invalidUri}"
  | tls target => s!"invalid TLS configuration for {target}: {told .other}"
  | connect target => s!"failed to connect to {target}: {told .other}"
  | invalidToken => "access token is not a valid metadata value"

/-- The message, then the messages of what caused it. -/
def chain (others : ForeignErrors) (error : Error) : List String :=
  error.message others ::
    match error.cause? with
    | some fault => (others.transport fault).chain
    | none => []

end Error
end Dial
end RegionalDial
