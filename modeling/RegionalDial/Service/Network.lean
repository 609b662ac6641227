/-
# A network of services

Services with one answer each, known by the host and the port under which they are reached.  They
do not speak TLS, so a connection to a secure address is refused, and TLS settings play no part in
any other.
-/
import RegionalDial.Dial.Network
import RegionalDial.Service

namespace RegionalDial
namespace Dial

/-- The service that an address leads to. -/
def Network.serviceOf (serviceAt : String → Option StaticService) (uri : Uri) :
    Option StaticService :=
  uri.origin.bind fun origin => serviceAt origin.address

/-- The network in which these services answer at once, and nothing else does. -/
def Network.ofServices (serviceAt : String → Option StaticService) : Network where
  accepts uri _ := .done (uri.scheme? ≠ some "https" && (serviceOf serviceAt uri).isSome)
  answer uri _ request :=
    match serviceOf serviceAt uri with
    | some service => .done (.ok (service.getOne request))
    | none => .forever

end Dial
end RegionalDial
