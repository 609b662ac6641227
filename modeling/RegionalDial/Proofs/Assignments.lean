/-
# What a set of clusters keeps of an assignment

An assignment can leave out the list of its clusters, and each cluster its list of hosts.  A
`ClusterSet` that is read off it no longer tells what was left out, and this is all that is lost.

`Assignment.filled` is the assignment's clusters with every gap filled.  It is the normal form of
the loss: what was read is written as it (`toWire_ofAssignment`), a form without gaps is its own
(`filled_eq_self_iff`), and two assignments are read as one set exactly when their filled forms
are the same (`ofAssignment_eq_iff`).  A cluster without hosts keeps its place, the first one above
all: it is the home cluster, and were it passed over, another region would take its part.
-/
import Mathlib.Data.List.Forall2
import RegionalDial.Assignment

namespace RegionalDial

/-! ## 1. Assignments without gaps -/

namespace Assignment

/-- What an exchanged cluster says: its hosts, and none when their list is missing. -/
inductive WireCluster.Holds : WireCluster → Cluster → Prop
  | missing : Holds ⟨none⟩ ⟨[]⟩
  | present (hosts : List String) : Holds ⟨some hosts⟩ ⟨hosts⟩

/-- The same cluster with a list of hosts. -/
def WireCluster.filled : WireCluster → WireCluster
  | ⟨none⟩ => ⟨some []⟩
  | ⟨some hosts⟩ => ⟨some hosts⟩

/-- The clusters that were exchanged. -/
def exchanged (assignment : Assignment) : List WireCluster :=
  match assignment.clusters with
  | none => []
  | some clusters => clusters.values

/-- The clusters of the assignment with every gap filled. -/
def filled (assignment : Assignment) : WireClusters :=
  ⟨assignment.exchanged.map WireCluster.filled⟩

theorem WireCluster.holds_iff {cluster : WireCluster} {held : Cluster} :
    cluster.Holds held ↔ held = ⟨cluster.hosts.getD []⟩ := by
  constructor
  · rintro (_ | hosts) <;> rfl
  · rintro rfl
    rcases cluster with ⟨_ | hosts⟩
    · exact .missing
    · exact .present hosts

/-- What a cluster holds is written as the cluster without a gap. -/
theorem WireCluster.filled_eq (cluster : WireCluster) :
    cluster.filled = ⟨some (cluster.hosts.getD [])⟩ := by
  rcases cluster with ⟨_ | hosts⟩ <;> rfl

/-- A cluster is left as it is when it has a list of hosts. -/
theorem WireCluster.filled_eq_self_iff {cluster : WireCluster} :
    cluster.filled = cluster ↔ cluster.hosts.isSome = true := by
  rcases cluster with ⟨_ | hosts⟩ <;> simp [filled]

/-- **Filling gaps leaves clusters without gaps as they are, and no others.** -/
theorem filled_eq_self_iff {key : Option SystemKey} {clusters : WireClusters} :
    (⟨key, some clusters⟩ : Assignment).filled = clusters ↔
      ∀ cluster ∈ clusters.values, cluster.hosts.isSome = true := by
  rcases clusters with ⟨values⟩
  have hmap : values.map WireCluster.filled = values.map id ↔
      ∀ cluster ∈ values, cluster.filled = cluster := List.map_inj_left
  rw [List.map_id] at hmap
  simp only [filled, exchanged, WireClusters.mk.injEq, hmap, WireCluster.filled_eq_self_iff]

end Assignment

/-! ## 2. Reading and writing -/

namespace ClusterSet

open Assignment

theorem ofAssignment_some (assignment : Assignment) :
    ofAssignment (some assignment) =
      ⟨assignment.exchanged.map fun cluster => ⟨cluster.hosts.getD []⟩⟩ := by
  rcases assignment with ⟨key, _ | clusters⟩ <;> rfl

/-- **One cluster is read for each that was exchanged, in order, with its hosts in order.** -/
theorem holds_ofAssignment (assignment : Assignment) :
    List.Forall₂ WireCluster.Holds assignment.exchanged
      (ofAssignment (some assignment)).clusters := by
  rw [ofAssignment_some, List.forall₂_map_right_iff, List.forall₂_same]
  intro cluster _
  exact WireCluster.holds_iff.mpr rfl

/-- The home cluster is what the first exchanged cluster holds. -/
theorem home?_ofAssignment (assignment : Assignment) :
    Option.Rel WireCluster.Holds assignment.exchanged.head?
      (ofAssignment (some assignment)).home? := by
  have hholds := holds_ofAssignment assignment
  rw [home?]
  generalize assignment.exchanged = exchanged at hholds ⊢
  generalize (ofAssignment (some assignment)).clusters = clusters at hholds ⊢
  cases hholds with
  | nil => exact .none
  | cons hfirst _ => exact .some hfirst

/-- **What was read is written without gaps.** -/
theorem toWire_ofAssignment (assignment : Assignment) :
    (ofAssignment (some assignment)).toWire = assignment.filled := by
  simp only [ofAssignment_some, toWire, filled, List.map_map, WireClusters.mk.injEq]
  apply List.map_congr_left
  intro cluster _
  exact cluster.filled_eq.symm

/-- A set is known by what is written for it. -/
theorem toWire_inj {a b : ClusterSet} (h : a.toWire = b.toWire) : a = b := by
  rw [← ofAssignment_toWire none a, h, ofAssignment_toWire]

/-- **Two assignments are read as one set exactly when they differ in their gaps alone.** -/
theorem ofAssignment_eq_iff {a b : Assignment} :
    ofAssignment (some a) = ofAssignment (some b) ↔ a.filled = b.filled := by
  rw [← toWire_ofAssignment, ← toWire_ofAssignment]
  exact ⟨congrArg toWire, toWire_inj⟩

/-- **Reading an assignment loses which of its lists were missing, and nothing else.**  The set has
one cluster for each that was exchanged, in order and with its hosts in order, the home cluster in
the first place among them.  The key is not looked at.  Written again, the set is the assignment's
clusters with every gap filled, which are read as the same set; a missing list of clusters, and a
missing assignment too, are read like an empty list.  Two assignments are read as one set exactly
when they agree once their gaps are filled. -/
theorem set_is_the_assignment_without_gaps (assignment : Assignment) :
    let set := ofAssignment (some assignment)
    List.Forall₂ WireCluster.Holds assignment.exchanged set.clusters ∧
    Option.Rel WireCluster.Holds assignment.exchanged.head? set.home? ∧
    (∀ key, ofAssignment (some ⟨key, assignment.clusters⟩) = set) ∧
    set.toWire = assignment.filled ∧
    (∀ key, ofAssignment (some ⟨key, some set.toWire⟩) = set) ∧
    (∀ other, ofAssignment (some other) = set ↔ other.filled = assignment.filled) ∧
    (∀ key, (⟨key, none⟩ : Assignment).filled = ⟨[]⟩ ∧
      ofAssignment none = ofAssignment (some ⟨key, none⟩)) := by
  intro set
  refine ⟨holds_ofAssignment assignment, home?_ofAssignment assignment, ?_,
    toWire_ofAssignment assignment, ?_, ?_, ?_⟩
  · intro key
    -- The filled form is a function of the clusters.
    exact ofAssignment_eq_iff.mpr rfl
  · intro key
    exact ofAssignment_toWire key set
  · intro other
    exact ofAssignment_eq_iff
  · intro key
    exact ⟨rfl, rfl⟩

end ClusterSet

example : ClusterSet.ofAssignment (some ⟨none, some ⟨[⟨none⟩, ⟨some ["h"]⟩]⟩⟩) =
    ⟨[⟨[]⟩, ⟨["h"]⟩]⟩ := rfl

end RegionalDial
