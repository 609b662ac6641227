/-
# Assignments as bytes

Each message is written field by field in the order of the field numbers.  A missing message and
an empty text are left out; a message that is present is written even when it is empty, so the
two stay apart.  Reading merges: a message that is given twice is read as one, and lists grow.
Fields that are not known are dropped.
-/
import RegionalDial.Assignment
import RegionalDial.Text.Utf8
import RegionalDial.Wire.Field

namespace RegionalDial

open Text Wire

/-- How deep messages and groups may nest in one message. -/
def nestingLimit : Nat := 100

namespace SystemKey

def encode (key : SystemKey) : List UInt8 :=
  if key.systemId = "" then [] else Field.encode 1 (Utf8.encode key.systemId)

/-- Merges the bytes of a key into one. -/
def merge (limit : Nat) : SystemKey → List UInt8 → Option SystemKey :=
  Field.merge limit fun key field =>
    match field.number, field.chunk with
    | 1, some chunk => (Utf8.decode? chunk).map SystemKey.mk
    | 1, none => none
    | _, _ => some key

end SystemKey

namespace Assignment

/-- The message that holds a list of hosts. -/
def encodeHosts (hosts : List String) : List UInt8 :=
  hosts.flatMap fun host => Field.encode 1 (Utf8.encode host)

def mergeHosts (limit : Nat) : List String → List UInt8 → Option (List String) :=
  Field.merge limit fun hosts field =>
    match field.number, field.chunk with
    | 1, some chunk => (Utf8.decode? chunk).map fun host => hosts ++ [host]
    | 1, none => none
    | _, _ => some hosts

namespace WireCluster

def encode (cluster : WireCluster) : List UInt8 :=
  match cluster.hosts with
  | none => []
  | some hosts => Field.encode 1 (encodeHosts hosts)

def merge (limit : Nat) : WireCluster → List UInt8 → Option WireCluster :=
  Field.merge limit fun cluster field =>
    match field.number, field.chunk with
    | 1, some chunk =>
      (mergeHosts (limit - 1) (cluster.hosts.getD []) chunk).map fun hosts => ⟨some hosts⟩
    | 1, none => none
    | _, _ => some cluster

end WireCluster

namespace WireClusters

def encode (clusters : WireClusters) : List UInt8 :=
  clusters.values.flatMap fun cluster => Field.encode 1 cluster.encode

def merge (limit : Nat) : WireClusters → List UInt8 → Option WireClusters :=
  Field.merge limit fun clusters field =>
    match field.number, field.chunk with
    | 1, some chunk =>
      (WireCluster.merge (limit - 1) ⟨none⟩ chunk).map fun cluster => ⟨clusters.values ++ [cluster]⟩
    | 1, none => none
    | _, _ => some clusters

end WireClusters

def encode (assignment : Assignment) : List UInt8 :=
  (match assignment.key with
    | none => []
    | some key => Field.encode 1 key.encode) ++
  (match assignment.clusters with
    | none => []
    | some clusters => Field.encode 2 clusters.encode)

def merge (limit : Nat) : Assignment → List UInt8 → Option Assignment :=
  Field.merge limit fun assignment field =>
    match field.number, field.chunk with
    | 1, some chunk =>
      (SystemKey.merge (limit - 1) (assignment.key.getD ⟨""⟩) chunk).map fun key =>
        { assignment with key := some key }
    | 2, some chunk =>
      (WireClusters.merge (limit - 1) (assignment.clusters.getD ⟨[]⟩) chunk).map fun clusters =>
        { assignment with clusters := some clusters }
    | 1, none | 2, none => none
    | _, _ => some assignment

end Assignment

namespace AssignmentRequest

def encode (request : AssignmentRequest) : List UInt8 :=
  match request.key with
  | none => []
  | some key => Field.encode 1 key.encode

/-- The request with these bytes. -/
def decode? (bytes : List UInt8) : Option AssignmentRequest :=
  Field.merge nestingLimit (fun request field =>
    match field.number, field.chunk with
    | 1, some chunk =>
      (SystemKey.merge (nestingLimit - 1) (request.key.getD ⟨""⟩) chunk).map fun key => ⟨some key⟩
    | 1, none => none
    | _, _ => some request) ⟨none⟩ bytes

end AssignmentRequest

namespace AssignmentResponse

def encode (response : AssignmentResponse) : List UInt8 :=
  match response.value with
  | none => []
  | some assignment => Field.encode 1 assignment.encode

/-- The response with these bytes. -/
def decode? (bytes : List UInt8) : Option AssignmentResponse :=
  Field.merge nestingLimit (fun response field =>
    match field.number, field.chunk with
    | 1, some chunk =>
      (Assignment.merge (nestingLimit - 1) (response.value.getD ⟨none, none⟩) chunk).map
        fun assignment => ⟨some assignment⟩
    | 1, none => none
    | _, _ => some response) ⟨none⟩ bytes

end AssignmentResponse
end RegionalDial
