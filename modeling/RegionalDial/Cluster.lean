/-
# Clusters and the host to connect to

An assignment service answers with clusters in order of preference, each a list of hosts in order
of preference.  The choice is read off the order alone: the first host of the first cluster, and
nothing when that host is missing or blank.  Later clusters and later hosts are never considered.
-/
import RegionalDial.Text.Blank

namespace RegionalDial

/-- A group of interchangeable hosts, most preferred first. -/
structure Cluster where
  hosts : List String
deriving DecidableEq, Inhabited

/-- The clusters assigned to a caller, the home cluster first. -/
structure ClusterSet where
  clusters : List Cluster
deriving DecidableEq, Inhabited

namespace ClusterSet

/-- One cluster per list of hosts, `ClusterSet.from`. -/
def ofHosts (hosts : List (List String)) : ClusterSet := ⟨hosts.map Cluster.mk⟩

/-- The hosts of each cluster. -/
def toHosts (set : ClusterSet) : List (List String) := set.clusters.map Cluster.hosts

def size (set : ClusterSet) : Nat := set.clusters.length

def isEmpty (set : ClusterSet) : Bool := set.clusters.isEmpty

/-- The caller's home cluster, `ClusterSet.home`. -/
def home? (set : ClusterSet) : Option Cluster := set.clusters.head?

/-- The host to connect to, `ClusterSet.select_target`: the first one of the home cluster, as it is
written, unless it is blank. -/
def target? (set : ClusterSet) : Option String :=
  (set.home?.bind fun cluster => cluster.hosts.head?).filter fun host =>
    !Text.Blank.isBlankText host

@[simp] theorem toHosts_ofHosts (hosts : List (List String)) : (ofHosts hosts).toHosts = hosts := by
  simp [ofHosts, toHosts, Function.comp_def]

@[simp] theorem ofHosts_toHosts (set : ClusterSet) : ofHosts set.toHosts = set := by
  simp [ofHosts, toHosts, Function.comp_def]

end ClusterSet
end RegionalDial
