/-
# An assignment service with one answer

It gives every caller the same clusters and sends the key of the question back.
-/
import RegionalDial.Assignment

namespace RegionalDial

/-- A service that answers every question with the same clusters, `StaticAssignmentService`. -/
structure StaticService where
  clusters : ClusterSet
deriving DecidableEq, Inhabited

namespace StaticService

/-- The answer to one question, `StaticAssignmentService.get_one`. -/
def getOne (service : StaticService) (request : AssignmentRequest) : AssignmentResponse :=
  ⟨some ⟨request.key, some service.clusters.toWire⟩⟩

end StaticService
end RegionalDial
