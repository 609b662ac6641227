/-
# Connecting to the resolved host

An endpoint is resolved, and the host that was chosen is dialed under the same options.  No other
host is ever dialed.
-/
import RegionalDial.Auth.Load
import RegionalDial.Redirect.Resolver

namespace RegionalDial
namespace Redirect

/-- A connection to the host that a resolution chose. -/
structure Connection where
  channel : Dial.Channel
  interceptor : Interceptor
  resolution : Resolution
deriving DecidableEq

namespace Connection

/-- The endpoint that was dialed, `Connection.endpoint`. -/
def endpoint (connection : Connection) : String := connection.resolution.endpoint

/-- Asks for an assignment over the connection. -/
def getOne (network : Dial.Network) (connection : Connection) (request : AssignmentRequest) :
    Run Dial.Effect (Except Status AssignmentResponse) :=
  network.getOne connection.channel connection.interceptor request

end Connection

/-- What connecting does: it resolves, and then it dials. -/
inductive Step (ε : Type) where
  | resolving (effect : Effect ε)
  | dialing (effect : Dial.Effect)
deriving DecidableEq

/-- Dials what a resolution chose, `dial_resolved`. -/
def dialResolved (network : Dial.Network) (resolution : Resolution) (options : Dial.Options) :
    Run Dial.Effect (Except Error Connection) :=
  (network.dial resolution.endpoint options).map fun dialed =>
    match dialed with
    | .ok channel => .ok ⟨channel, options.interceptor, resolution⟩
    | .error error => .error (.dial resolution.endpoint error)

/-- Resolves an endpoint with some options for the lookup, and dials the host with others. -/
def resolveThenDial {ε : Type} (network : Dial.Network) (resolver : Resolver ε) (endpoint : String)
    (lookupOptions options : Dial.Options) : Run (Step ε) (Except Error Connection) :=
  ((resolver.resolve endpoint lookupOptions).mapEffects Step.resolving).bind fun resolved =>
    match resolved with
    | .error error => .done (.error error)
    | .ok resolution => (dialResolved network resolution options).mapEffects Step.dialing

/-- Resolves an endpoint and connects to the host, `connect`. -/
def connect {ε : Type} (network : Dial.Network) (resolver : Resolver ε) (endpoint : String)
    (options : Dial.Options) : Run (Step ε) (Except Error Connection) :=
  resolveThenDial network resolver endpoint options options

/-! ## With an authentication flag -/

/-- Why no connection could be made with a flag, `ConnectError`. -/
inductive ConnectError where
  | auth (error : Auth.Error)
  | redirect (error : Error)
deriving DecidableEq

namespace ConnectError

def message (others : ForeignErrors) : ConnectError → String
  | auth error => error.message others
  | redirect error => error.message others

/-- The chain of the error inside: being one of the two adds no message. -/
def chain (others : ForeignErrors) : ConnectError → List String
  | auth error => error.chain others
  | redirect error => error.chain others

end ConnectError

/-- Connects with what a flag names, `dial_with_auth`.  The limit bounds the lookup, its call and
each attempt to connect; calls over the connection that is returned are not bounded. -/
def dialWithAuth (network : Dial.Network) (files : File.System) (toggle : Toggle)
    (endpoint : String) (auth : Auth) (limit : Duration) :
    Run (Step Dial.Effect) (Except ConnectError Connection) :=
  match auth.configure files with
  | .error error => .done (.error (.auth error))
  | .ok configured =>
    let options := configured.withConnectTimeout limit
    let lookupOptions := options.withRequestTimeout limit
    let resolver := Resolver.over network toggle (some limit)
    (resolveThenDial network resolver endpoint lookupOptions options).map fun connected =>
      match connected with
      | .ok connection => .ok connection
      | .error error => .error (.redirect error)

end Redirect
end RegionalDial
