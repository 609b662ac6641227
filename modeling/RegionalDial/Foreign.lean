/-
# Errors of others

Behind an error may stand one that is not made here: why a file cannot be read, a fault of the
transport, the status of a call.  Such an error says something, and behind it may stand another of
its kind, which it need not tell.  Which ones stand there is up to the file system, the transport
and the peer.  So what is told of an error is told for any `ForeignErrors`; where nothing else is
said, each of them is the last of its chain.
-/
import RegionalDial.File.Tree
import RegionalDial.Status

namespace RegionalDial
namespace Dial

/-- A fault of the transport below the dialer. -/
inductive TransportFault where
  /-- The address is no URI. -/
  | invalidUri
  /-- Anything else: a refused configuration, a refused connection. -/
  | other
deriving DecidableEq, Inhabited

namespace TransportFault

/-- What the transport says itself, without what is behind the fault. -/
def message : TransportFault → String
  | invalidUri => "invalid URI"
  | other => "transport error"

end TransportFault
end Dial

/-- An error that is not made here, and what is behind it. -/
inductive Foreign where
  | root (message : String)
  | caused (message : String) (source : Foreign)
deriving DecidableEq

namespace Foreign

def message : Foreign → String
  | root message | caused message _ => message

/-- The error right behind an error. -/
def source? : Foreign → Option Foreign
  | root _ => none
  | caused _ source => some source

/-- The error and all that are behind it, nearest first. -/
def all : Foreign → List Foreign
  | root message => [root message]
  | caused message source => caused message source :: source.all

/-- The message, then the messages of what is behind the error. -/
def chain : Foreign → List String
  | root message => [message]
  | caused message source => message :: source.chain

theorem map_message_all (error : Foreign) : error.all.map message = error.chain := by
  induction error with
  | root message => rfl
  | caused text source ih => rw [all, chain, List.map_cons, ih, message]

end Foreign

/-- What the errors of others are. -/
structure ForeignErrors where
  file : File.Error → Foreign
  transport : Dial.TransportFault → Foreign
  status : Status → Foreign

/-- Each in its own words, with nothing behind it that is followed. -/
def ForeignErrors.told : ForeignErrors where
  file cause := .root cause.message
  transport fault := .root fault.message
  status status := .root status.text

end RegionalDial
