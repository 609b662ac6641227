/-
# Performing a command

A command reads files, does something to the network and ends with a text or an error.  All it
needs of the world is given with it, so what it does is a run like any other.
-/
import RegionalDial.Command.Arguments
import RegionalDial.Redirect.Connection
import RegionalDial.Report
import RegionalDial.Service
import RegionalDial.Table

namespace RegionalDial
namespace Command

/-- What a command finds around it. -/
structure Host where
  files : File.System
  /-- The value of the variable that sets the toggle. -/
  toggleVariable : Option (List UInt8)
  network : Dial.Network
  canListen : SocketAddress → Bool

namespace Host

def toggle (host : Host) : Toggle := Toggle.ofBytes host.toggleVariable

/-- The resolver of a target, which looks assignments up over the network: `resolver`. -/
def resolver (host : Host) (target : Target) : Redirect.Resolver Dial.Effect :=
  Redirect.Resolver.over host.network host.toggle (some target.timeout)

end Host

/-! ## 1. Errors -/

/-- Why a command fails. -/
inductive Error where
  | target (cause : TargetError)
  | resolving (server : String) (cause : Redirect.Error)
  | connecting (server : String) (cause : Redirect.Error)
  | loading (path : Path) (cause : AssignmentTable.Error)
  | listening
deriving DecidableEq

namespace Error

def message : Error → String
  | target cause => cause.message
  | resolving server _ => s!"resolving {server}"
  | connecting server _ => s!"connecting to {server}"
  | loading path _ => s!"loading assignments from {path.display}"
  | listening => Dial.TransportFault.other.message

/-- The message, then the messages of what caused it. -/
def chain : Error → List String
  | target cause => cause.chain
  | error@(resolving _ cause) | error@(connecting _ cause) => error.message :: cause.chain .told
  | error@(loading _ (.read cause)) => [error.message, cause.message]
  | error@(loading _ .format) => [error.message, "TOML parse error"]
  | error@listening => [error.message]

end Error

/-! ## 2. The commands -/

/-- What a server says about its table before it listens. -/
inductive Notice where
  | home (clusters : Nat) (host : String)
  /-- A warning: whoever asks will be assigned no usable host. -/
  | noHome
deriving DecidableEq, Inhabited

/-- The notice for a table with these clusters. -/
def Notice.ofClusters (set : ClusterSet) : Notice :=
  match set.target? with
  | some host => .home set.size host
  | none => .noHome

/-- What a command does. -/
inductive Effect where
  | redirect (step : Redirect.Step Dial.Effect)
  | noted (notice : Notice)
  /-- A service answers at an address until the program is interrupted. -/
  | served (listen : SocketAddress) (service : StaticService)
deriving DecidableEq

/-- Resolves the server and tells the result, `commands.resolve.resolve`. -/
def resolve (host : Host) (target : Target) (format : String) :
    Run Effect (Except Error String) :=
  match target.dialOptions host.files with
  | .error error => .done (.error (.target error))
  | .ok options =>
    (((host.resolver target).resolve target.server options).mapEffects fun effect =>
      Effect.redirect (.resolving effect)).map fun resolved =>
        match resolved with
        | .ok resolution =>
          .ok ((Report.ofResolution target.server resolution host.toggle).render format)
        | .error error => .error (.resolving target.server error)

/-- Resolves the server, connects over a network and tells to what.  By then the network may be
another than the one that the lookup met. -/
def connectOver (network : Dial.Network) (host : Host) (target : Target) :
    Run Effect (Except Error String) :=
  match target.dialOptions host.files with
  | .error error => .done (.error (.target error))
  | .ok options =>
    ((Redirect.connect network (host.resolver target) target.server options).mapEffects
      Effect.redirect).map fun connected =>
        match connected with
        | .ok connection =>
          .ok s!"connected to {connection.endpoint} ({connection.resolution.reason.text})"
        | .error error => .error (.connecting target.server error)

/-- Resolves the server, connects and tells to what, `commands.resolve.connect`. -/
def connect (host : Host) (target : Target) : Run Effect (Except Error String) :=
  connectOver host.network host target

/-- Serves the assignments of a table until it is interrupted, `commands.serve.serve`. -/
def serve (host : Host) (listen : SocketAddress) (assignments : Path) :
    Run Effect (Except Error Unit) :=
  match AssignmentTable.ofFile host.files assignments with
  | .error cause => .done (.error (.loading assignments cause))
  | .ok table =>
    .effect (.noted (Notice.ofClusters table.clusterSet))
      (if host.canListen listen then .effect (.served listen ⟨table.clusterSet⟩) (.done (.ok ()))
      else .done (.error .listening))

/-! ## 3. What a program shows -/

/-- What is left of a program that has ended. -/
structure Outcome where
  exitCode : Nat
  output : String
  /-- The first line of what it says about an error. -/
  errorLine : Option String
deriving DecidableEq, Inhabited

namespace Outcome

/-- A line without the carriage return that ends it. -/
def withoutReturn (line : List Char) : List Char :=
  if line.getLast? = some '\r' then line.dropLast else line

/-- The first line of a text. -/
def firstLine (s : String) : String :=
  String.ofList (withoutReturn (s.toList.takeWhile (· ≠ '\n')))

/-- A command that ended with a text, or with nothing to tell. -/
def success (output : String) : Outcome := ⟨0, output, none⟩

def failure (error : Error) : Outcome := ⟨1, "", some (firstLine ("Error: " ++ error.message))⟩

/-- The version of the program, or of a command by the name of both. -/
def versionLine (verb : Option Verb) : String :=
  let command := match verb with
    | none => ""
    | some verb => "-" ++ verb.name
  programName ++ command ++ " " ++ programVersion ++ "\n"

/-- What a refused command line shows.  Help and usage are not spelled out. -/
def refused : Refusal → Outcome
  | .usage => ⟨2, "", none⟩
  | .help => success ""
  | .version verb => success (versionLine verb)

/-- A command that tells a text ends it with a line feed. -/
def ofText : Except Error String → Outcome
  | .ok text => success (text ++ "\n")
  | .error error => failure error

end Outcome

/-- Performs what was asked for. -/
def perform (host : Host) : Invocation → Run Effect Outcome
  | .resolve target format => (resolve host target format).map Outcome.ofText
  | .connect target => (connect host target).map Outcome.ofText
  | .serve listen assignments =>
    (serve host listen assignments).map fun served =>
      match served with
      | .ok () => Outcome.success ""
      | .error error => Outcome.failure error

/-- Runs a command line, `main`. -/
def run (host : Host) (arguments : List (List UInt8)) : Run Effect Outcome :=
  match Invocation.parse arguments with
  | .error refusal => .done (Outcome.refused refusal)
  | .ok invocation => perform host invocation

end Command
end RegionalDial
