/-
# The service behind a path

A question arrives as a POST to a path, in a body of frames.  One path is known.  The first frame
is the question; whatever follows it has to be whole frames that hold questions too.  How the call
ended is told by a status beside the answer, never by the code of the transport.
-/
import RegionalDial.Assignment.Encoding
import RegionalDial.Dial.Uri
import RegionalDial.Service
import RegionalDial.Service.Frame
import RegionalDial.Status

namespace RegionalDial

/-- A POST: the address it is sent to, which may be a path alone, and its body. -/
structure HttpRequest where
  address : String
  body : List UInt8
deriving DecidableEq, Inhabited

/-- What is sent back. -/
structure HttpResponse where
  httpStatus : Nat
  contentType : String
  /-- How the call ended. -/
  status : StatusCode
  body : List UInt8
deriving DecidableEq, Inhabited

namespace HttpRequest

/-- The path of the address; the query and the fragment do not count. -/
def path? (request : HttpRequest) : Option String := (Uri.parse? request.address).map Uri.path

end HttpRequest

namespace HttpResponse

/-- A call that ended with this status and this body. -/
def ended (status : StatusCode) (body : List UInt8) : HttpResponse :=
  ⟨200, "application/grpc", status, body⟩

end HttpResponse

namespace Frame.Fault

/-- The status of a call whose body is refused. -/
def status : Frame.Fault → StatusCode
  | tooLong => .outOfRange
  | malformed => .internal

end Frame.Fault

namespace StaticService

/-- The path of the one call there is. -/
def getOnePath : String := "/arista.redirector.v1.AssignmentService/GetOne"

/-- The question in a body. -/
def question (body : List UInt8) : Except Frame.Fault AssignmentRequest :=
  match Frame.readAll AssignmentRequest.decode? body with
  | .error fault => .error fault
  | .ok [] => .error .malformed
  | .ok (request :: _) => .ok request

/-- What the service sends back. -/
def respond (service : StaticService) (request : HttpRequest) : HttpResponse :=
  if request.path? = some getOnePath then
    match question request.body with
    | .error fault => .ended fault.status []
    | .ok question => .ended .ok (Frame.encode (service.getOne question).encode)
  else .ended .unimplemented []

end StaticService
end RegionalDial
