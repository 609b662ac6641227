/-
# Assignments as they are exchanged

The messages of the assignment service.  A field that is a message of its own may be missing, and
a list of hosts sits inside such a message, so a cluster can lack it.  Reading a `ClusterSet` off
an assignment fills every gap with an empty list and never drops a cluster; writing one leaves no
gap.
-/
import RegionalDial.Cluster

namespace RegionalDial

/-- Names the system an assignment is computed for. -/
structure SystemKey where
  systemId : String
deriving DecidableEq, Inhabited

namespace Assignment

/-- A cluster as it is exchanged: `hosts` is `none` when the list's message is missing. -/
structure WireCluster where
  hosts : Option (List String)
deriving DecidableEq, Inhabited

/-- The list of clusters as it is exchanged. -/
structure WireClusters where
  values : List WireCluster
deriving DecidableEq, Inhabited

end Assignment

/-- An assignment as it is exchanged. -/
structure Assignment where
  key : Option SystemKey
  clusters : Option Assignment.WireClusters
deriving DecidableEq, Inhabited

/-- A question for an assignment.  Without a key, it is the caller's own. -/
structure AssignmentRequest where
  key : Option SystemKey
deriving DecidableEq, Inhabited

/-- The answer to a question. -/
structure AssignmentResponse where
  value : Option Assignment
deriving DecidableEq, Inhabited

namespace ClusterSet

/-- The clusters an answer holds, one for each cluster that was exchanged and in the same order:
`ClusterSet.from_assignment`. -/
def ofAssignment (assignment : Option Assignment) : ClusterSet :=
  let values := ((assignment.bind Assignment.clusters).map (·.values)).getD []
  ⟨values.map fun cluster => ⟨cluster.hosts.getD []⟩⟩

/-- The clusters as they are exchanged, every list of hosts present: `ClusterSet.to_proto`. -/
def toWire (set : ClusterSet) : Assignment.WireClusters :=
  ⟨set.clusters.map fun cluster => ⟨some cluster.hosts⟩⟩

@[simp] theorem ofAssignment_toWire (key : Option SystemKey) (set : ClusterSet) :
    ofAssignment (some ⟨key, some set.toWire⟩) = set := by
  simp [ofAssignment, toWire, Function.comp_def]

@[simp] theorem ofAssignment_none : ofAssignment none = ⟨[]⟩ := rfl

end ClusterSet
end RegionalDial
