/-
# An assignment on its way

An assignment travels as bytes: the service writes its answer, and whoever asked reads it.  Five
messages stand one inside the other, and at each level two things could be lost: the order of what
is repeated, and the difference between a message that is empty and one that is missing.  Neither
is.  Each level has its own lemma, which says that reading what was written gives the message
back, and uses the lemma of the level below for the chunk it holds.

So a question is answered with its own key and the service's clusters, and whoever looks a table up
in this way is sent to the host that the server of the table announces, or finds no host exactly
when that server warns.
-/
import RegionalDial.Assignment.Encoding
import RegionalDial.Command.Perform
import RegionalDial.Proofs.Resolving
import RegionalDial.Proofs.Tables
import RegionalDial.Proofs.Wire
import RegionalDial.Service.Network

namespace RegionalDial

open Text Wire

/-! ## 1. Reading what was written, message by message -/

/-- A key without an id is written as nothing, and nothing is read as a key without an id. -/
theorem SystemKey.merge_encode (limit : Nat) {key : SystemKey} (hfits : Fits key.encode) :
    SystemKey.merge limit ⟨""⟩ key.encode = some key := by
  rw [SystemKey.encode] at hfits ⊢
  rw [SystemKey.merge]
  split
  · rename_i hempty
    rw [Field.merge_nil, ← hempty]
  · rename_i hid
    rw [if_neg hid] at hfits
    rw [Field.merge_encode_single (by decide) _ hfits]
    simp only [Utf8.decode?_encode, Option.map_some]

namespace Assignment

/-- The hosts come back in their order, empty and repeated ones among them. -/
theorem mergeHosts_encodeHosts (limit : Nat) {hosts : List String}
    (hfits : Fits (encodeHosts hosts)) : mergeHosts limit [] (encodeHosts hosts) = some hosts := by
  refine Field.merge_repeated (by decide) id Utf8.encode ?_ hosts [] hfits
  intro before host _
  simp only [Utf8.decode?_encode, Option.map_some, id_eq]

/-- A list of hosts that is there and empty stays apart from one that is missing. -/
theorem WireCluster.merge_encode (limit : Nat) {cluster : WireCluster}
    (hfits : Fits cluster.encode) :
    WireCluster.merge limit ⟨none⟩ cluster.encode = some cluster := by
  rcases cluster with ⟨_ | hosts⟩
  · rw [WireCluster.merge, WireCluster.encode]
    exact Field.merge_nil _
  · rw [WireCluster.encode] at hfits ⊢
    rw [WireCluster.merge, Field.merge_encode_single (by decide) _ hfits]
    simp only [Option.getD_none, mergeHosts_encodeHosts _ hfits.chunk, Option.map_some]

theorem WireClusters.merge_encode (limit : Nat) {clusters : WireClusters}
    (hfits : Fits clusters.encode) :
    WireClusters.merge limit ⟨[]⟩ clusters.encode = some clusters := by
  refine Field.merge_repeated (by decide) WireClusters.mk WireCluster.encode ?_ clusters.values []
    hfits
  intro before cluster hcluster
  simp only [WireCluster.merge_encode _ hcluster, Option.map_some]

theorem merge_encode (limit : Nat) {assignment : Assignment} (hfits : Fits assignment.encode) :
    Assignment.merge limit ⟨none, none⟩ assignment.encode = some assignment := by
  -- Either field may be missing; one that is there is merged before what follows it.
  rcases assignment with ⟨_ | key, _ | clusters⟩ <;>
    simp only [Assignment.encode, List.nil_append, List.append_nil] at hfits ⊢
  · exact Field.merge_nil _
  · rw [Assignment.merge, Field.merge_encode_single (by decide) _ hfits]
    simp only [Option.getD_none, WireClusters.merge_encode _ hfits.chunk, Option.map_some]
  · rw [Assignment.merge, Field.merge_encode_single (by decide) _ hfits]
    simp only [Option.getD_none, SystemKey.merge_encode _ hfits.chunk, Option.map_some]
  · rw [Assignment.merge, Field.merge_encode (by decide) _ hfits]
    simp only [Option.getD_none, SystemKey.merge_encode _ hfits.left.chunk, Option.map_some,
      Option.bind_some, Field.merge_encode_single (by decide) _ hfits.right,
      WireClusters.merge_encode _ hfits.right.chunk]

end Assignment

/-- **An answer is read as it was written.** -/
theorem AssignmentResponse.decode?_encode {response : AssignmentResponse}
    (hfits : Fits response.encode) :
    AssignmentResponse.decode? response.encode = some response := by
  rcases response with ⟨_ | assignment⟩
  · exact Field.merge_nil _
  · rw [AssignmentResponse.encode] at hfits ⊢
    rw [AssignmentResponse.decode?, Field.merge_encode_single (by decide) _ hfits]
    simp only [Option.getD_none, Assignment.merge_encode _ hfits.chunk, Option.map_some]

/-! ## 2. Whoever reads the bytes -/

namespace Redirect

variable {ε : Type}

/-- The resolver is turned on, and in time its lookup brings the clusters of the answer that is
read off these bytes. -/
structure Resolver.Reads (resolver : Resolver ε) (endpoint : String) (options : Dial.Options)
    (bytes : List UInt8) : Prop where
  enabled : resolver.toggle.isEnabled = true
  inTime : resolver.InTime endpoint options
  answer : (resolver.lookup endpoint options).value? =
    (AssignmentResponse.decode? bytes).map fun response =>
      .ok (ClusterSet.ofAssignment response.value)

/-- So it is with a lookup over a network: it reads the bytes that come as the answer to its
question. -/
theorem Resolver.reads_over {network : Dial.Network} {toggle : Toggle} {timeout : Option Duration}
    {endpoint : String} {options : Dial.Options} {bytes : List UInt8} {channel : Dial.Channel}
    (henabled : toggle.isEnabled = true)
    (hintime : Resolver.InTime (.over network toggle timeout) endpoint options)
    (hdial : (network.dial endpoint options).value? = some (.ok channel))
    (hanswer : (network.getOne channel options.interceptor ⟨none⟩).value? =
      (AssignmentResponse.decode? bytes).map .ok) :
    Resolver.Reads (.over network toggle timeout) endpoint options bytes := by
  refine ⟨henabled, hintime, ?_⟩
  change (Lookup.over network endpoint options).value? = _
  rw [Lookup.over, Run.value?_bind, hdial, Option.bind_some, Run.value?_map, hanswer,
    Option.map_map]
  rfl

namespace Resolution

variable {endpoint : String} {clusters : ClusterSet}

/-- Clusters send to a host when it is their home host and to no other. -/
theorem ofClusters_eq_ok_iff {host : String} :
    ofClusters endpoint clusters = .ok ⟨host, .redirected⟩ ↔ clusters.target? = some host := by
  rw [ofClusters]
  cases clusters.target? with
  | none => simp
  | some home => simp

theorem ofClusters_eq_error_iff :
    ofClusters endpoint clusters = .error (.noClusterTargets endpoint) ↔
      clusters.target? = none := by
  rw [ofClusters]
  cases clusters.target? with
  | none => simp
  | some home => simp

end Resolution
end Redirect

/-! ## 3. Whoever serves the table -/

namespace Command

variable {set : ClusterSet}

theorem Notice.ofClusters_eq_home_iff {host : String} :
    Notice.ofClusters set = .home set.size host ↔ set.target? = some host := by
  rw [ofClusters]
  cases set.target? with
  | none => simp
  | some home => simp

theorem Notice.ofClusters_eq_noHome_iff : Notice.ofClusters set = .noHome ↔ set.target? = none := by
  rw [ofClusters]
  cases set.target? with
  | none => simp
  | some home => simp

/-- A server that has read its table says one thing about it, whether or not it can listen. -/
theorem noted_mem_effects_serve_iff {host : Host} {listen : SocketAddress} {path : Path}
    {table : AssignmentTable} (h : AssignmentTable.ofFile host.files path = .ok table)
    {notice : Notice} :
    .noted notice ∈ (serve host listen path).effects ↔
      Notice.ofClusters table.clusterSet = notice := by
  simp only [serve, h]
  split
  · simp [Run.effects, eq_comm]
  · simp [Run.effects, eq_comm]

end Command

namespace Redirect

/-! ## 4. From the table to the host -/

/-- **What a service assigns is what a caller reads.**  Of the bytes of an answer the key of the
question is read, missing or empty as it was, and all the service's clusters.  So a resolver that
reads them redirects to the host that a server of the same table announces, and finds no host when
that server warns that there is none.  The bytes are a block in a memory, so their number has 64
bits. -/
theorem assignment_survives_the_exchange (set : ClusterSet) (key : Option SystemKey)
    (hfits : Fits (StaticService.getOne ⟨set⟩ ⟨key⟩).encode) :
    let bytes := (StaticService.getOne ⟨set⟩ ⟨key⟩).encode
    (∃ answer, AssignmentResponse.decode? bytes = some ⟨some answer⟩ ∧ answer.key = key ∧
      ClusterSet.ofAssignment (some answer) = set) ∧
    (∀ (ε : Type) (resolver : Resolver ε) (endpoint : String) (options : Dial.Options),
      resolver.Reads endpoint options bytes →
      let resolved := (resolver.resolve endpoint options).value?
      (∀ host, resolved = some (.ok ⟨host, .redirected⟩) ↔ set.target? = some host) ∧
      (resolved = some (.error (.noClusterTargets endpoint)) ↔ set.target? = none)) ∧
    (∀ (server : Command.Host) (listen : SocketAddress) (path : Path) (table : AssignmentTable),
      AssignmentTable.ofFile server.files path = .ok table → table.clusterSet = set →
      let told := (Command.serve server listen path).effects
      (∀ host, .noted (.home set.size host) ∈ told ↔ set.target? = some host) ∧
      (.noted .noHome ∈ told ↔ set.target? = none)) := by
  intro bytes
  have hdecode : AssignmentResponse.decode? bytes = some ⟨some ⟨key, some set.toWire⟩⟩ :=
    AssignmentResponse.decode?_encode hfits
  refine ⟨⟨⟨key, some set.toWire⟩, hdecode, rfl, ClusterSet.ofAssignment_toWire key set⟩, ?_, ?_⟩
  · intro ε resolver endpoint options hreads resolved
    have hanswer : (resolver.lookup endpoint options).value? = some (.ok set) := by
      rw [hreads.answer, hdecode, Option.map_some, ClusterSet.ofAssignment_toWire]
    have hresolved : resolved = some (Resolution.ofClusters endpoint set) :=
      Resolver.value?_resolve_of_inTime hreads.enabled hreads.inTime hanswer
    rw [hresolved]
    refine ⟨fun host => ?_, ?_⟩
    · rw [Option.some_inj]
      exact Resolution.ofClusters_eq_ok_iff
    · rw [Option.some_inj]
      exact Resolution.ofClusters_eq_error_iff
  · rintro server listen path table htable rfl told
    refine ⟨fun host => ?_, ?_⟩
    · rw [Command.noted_mem_effects_serve_iff htable]
      exact Command.Notice.ofClusters_eq_home_iff
    · rw [Command.noted_mem_effects_serve_iff htable]
      exact Command.Notice.ofClusters_eq_noHome_iff

/-- The table of a cluster that repeats a host, one without hosts, and one of an empty and a blank
host. -/
def tableWithBlanks : AssignmentTable := ⟨[["h", "h"], [], ["", " "]]⟩

/-- A key that is there and empty comes back; a resolver that asks the service over a network is
sent to the first host; and a server that finds the table in a file announces it. -/
theorem assignment_survives_with_blanks :
    let set := tableWithBlanks.clusterSet
    let network := Dial.Network.ofServices fun _ => some ⟨set⟩
    let resolver := Resolver.over network .default none
    let files := File.System.ofRead
      [(Path.ofString "table", .ok (Utf8.encode tableWithBlanks.write))]
    let server : Command.Host := ⟨files, none, network, fun _ => true⟩
    (∃ answer, AssignmentResponse.decode? (StaticService.getOne ⟨set⟩ ⟨some ⟨""⟩⟩).encode =
        some ⟨some answer⟩ ∧ answer.key = some ⟨""⟩ ∧
      ClusterSet.ofAssignment (some answer) = set) ∧
    (resolver.resolve "e:1" Dial.Options.plaintext).value? = some (.ok ⟨"h", .redirected⟩) ∧
    .noted (.home 3 "h") ∈
      (Command.serve server Command.defaultListen (Path.ofString "table")).effects := by
  intro set network resolver files server
  have hempty : Fits (StaticService.getOne ⟨set⟩ ⟨some ⟨""⟩⟩).encode := by
    unfold Fits
    decide +kernel
  have hmissing : Fits (StaticService.getOne ⟨set⟩ ⟨none⟩).encode := by
    unfold Fits
    decide +kernel
  obtain ⟨-, hresolved, htold⟩ := assignment_survives_the_exchange set none hmissing
  have hreads : resolver.Reads "e:1" Dial.Options.plaintext
      (StaticService.getOne ⟨set⟩ ⟨none⟩).encode := by
    have hdial : (network.dial "e:1" Dial.Options.plaintext).value? =
        some (.ok ⟨⟨some ⟨"http", "e:1"⟩, "", none⟩, none⟩) := by
      decide
    refine Resolver.reads_over rfl nofun hdial ?_
    rw [AssignmentResponse.decode?_encode hmissing]
    rfl
  have htable : AssignmentTable.ofFile files (Path.ofString "table") = .ok tableWithBlanks :=
    AssignmentTable.ofFile_of_written (by decide)
  refine ⟨(assignment_survives_the_exchange set (some ⟨""⟩) hempty).1, ?_, ?_⟩
  · exact ((hresolved Dial.Effect resolver "e:1" Dial.Options.plaintext hreads).1 "h").mpr rfl
  · exact ((htold server Command.defaultListen (Path.ofString "table") tableWithBlanks htable
      rfl).1 "h").mpr rfl

end Redirect
end RegionalDial
