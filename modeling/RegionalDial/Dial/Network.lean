/-
# Connections and calls

A network is known by what it does: which addresses accept a connection, and how they answer a
question for an assignment.  Both take time and may never come.  Dialing reads the target first,
so a target that is refused reaches no one.
-/
import RegionalDial.Assignment
import RegionalDial.Dial.Options
import RegionalDial.Run
import RegionalDial.Status

namespace RegionalDial
namespace Dial

/-- What a dialer does to the network. -/
inductive Effect where
  /-- A target is about to be dialed. -/
  | dial (target : String) (options : Options)
  /-- A connection to an address is begun. -/
  | opened (uri : Uri)
  /-- A question is sent to an address. -/
  | asked (uri : Uri) (headers : Metadata) (request : AssignmentRequest)
deriving DecidableEq

/-- How the addresses of a network behave. -/
structure Network where
  /-- Is a connection with these options accepted? -/
  accepts : Uri → Options → Pending Bool
  /-- The answer to a question that comes with these headers. -/
  answer : Uri → Metadata → AssignmentRequest → Pending (Except Status AssignmentResponse)
  /-- How long after a tick of the clock something takes place.  No one who uses the network has a
  say in this. -/
  sinceTick : Effect → Duration := fun _ => ⟨0⟩

/-- A connection that stands. -/
structure Channel where
  uri : Uri
  requestTimeout : Option Duration
deriving DecidableEq, Inhabited

namespace Network

/-- A network in which nothing accepts a connection. -/
def isolated : Network where
  accepts _ _ := .done false
  answer _ _ _ := .forever

/-- Dials a target, `DialOptions.dial`. -/
def dial (network : Network) (target : String) (options : Options) :
    Run Effect (Except Error Channel) :=
  .effect (.dial target options)
    (match options.endpoint target with
      | .error error => .done (.error error)
      | .ok uri =>
        .effect (.opened uri)
          (((Run.ofPending (network.accepts uri options)).withinOptional options.connectTimeout
            (network.sinceTick (.opened uri))).map fun accepted =>
              if accepted = some true then .ok ⟨uri, options.requestTimeout⟩
              else .error (.connect target)))

/-- The status of a call that took longer than its limit. -/
def expired : Status := ⟨.cancelled, "Timeout expired"⟩

/-- Asks for an assignment over a connection. -/
def getOne (network : Network) (channel : Channel) (interceptor : Interceptor)
    (request : AssignmentRequest) : Run Effect (Except Status AssignmentResponse) :=
  let headers := interceptor.apply Metadata.empty
  let question := Effect.asked channel.uri headers request
  .effect question
    (((Run.ofPending (network.answer channel.uri headers request)).withinOptional
      channel.requestTimeout (network.sinceTick question)).map fun answer =>
        answer.getD (.error expired))

end Network
end Dial
end RegionalDial
