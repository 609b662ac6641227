/-
# Tables of assignments

The file that says which clusters a service assigns:

    [[clusters]]
    hosts = ["host1.region1.example", "host2.region1.example"]

    [[clusters]]
    hosts = ["host1.region2.example"]

Both keys may be missing, and other keys are passed over.  A cluster may also be written as an
array, whose first item is then the hosts.
-/
import RegionalDial.Cluster
import RegionalDial.File.Tree
import RegionalDial.Toml.Document
import RegionalDial.Toml.Writer

namespace RegionalDial

/-- The hosts of each cluster, as a file gives them. -/
structure AssignmentTable where
  clusters : List (List String)
deriving DecidableEq, Inhabited

namespace AssignmentTable

open Toml

/-- The clusters of the table, `AssignmentTable.cluster_set`. -/
def clusterSet (table : AssignmentTable) : ClusterSet := ClusterSet.ofHosts table.clusters

/-! ## 1. Reading -/

/-- Why a table cannot be had. -/
inductive Error where
  /-- The text is no table. -/
  | format
  | read (cause : File.Error)
deriving DecidableEq, Inhabited

/-- A text, if the value is one. -/
def text? : Value → Option String
  | .text s => some s
  | _ => none

/-- The hosts that a value holds. -/
def hosts? : Value → Option (List String)
  | .array items => items.mapM text?
  | _ => none

/-- The hosts of a cluster that is a table. -/
def hostsOfEntries? (entries : Entries) : Option (List String) :=
  match entries.lookup "hosts" with
  | none => some []
  | some value => hosts? value

/-- The hosts of a cluster.  A date or a time counts as a table without the keys that matter. -/
def cluster? : Value → Option (List String)
  | .table _ entries => hostsOfEntries? entries
  | .array [] => some []
  | .array (first :: _) => hosts? first
  | .moment => some []
  | _ => none

/-- The clusters of a document. -/
def ofEntries? (entries : Entries) : Option AssignmentTable :=
  match entries.lookup "clusters" with
  | none => some ⟨[]⟩
  | some (.array items) => (items.mapM cluster?).map AssignmentTable.mk
  | some (.tables elements) => (elements.mapM hostsOfEntries?).map AssignmentTable.mk
  | some _ => none

/-- Reads a table, `AssignmentTable.parse`. -/
def parse? (document : String) : Option AssignmentTable := (Toml.parse? document).bind ofEntries?

/-- Reads the table in a file, `AssignmentTable.from_file`. -/
def ofFile (files : File.System) (path : Path) : Except Error AssignmentTable :=
  match files.readText path with
  | .error cause => .error (.read cause)
  | .ok document =>
    match parse? document with
    | some table => .ok table
    | none => .error .format

/-! ## 2. Writing -/

/-- A list of hosts: on one line up to one host, else one line for each. -/
def writeHosts : List String → List Char
  | [] => ['[', ']']
  | [host] => '[' :: Writer.quoted host.toList ++ [']']
  | hosts =>
    ['[', '\n'] ++
      (hosts.flatMap fun host => "    ".toList ++ Writer.quoted host.toList ++ [',', '\n']) ++ [']']

/-- A cluster under its header. -/
def writeCluster (hosts : List String) : List Char :=
  "[[clusters]]\nhosts = ".toList ++ writeHosts hosts ++ ['\n']

/-- The clusters with an empty line between them. -/
def writeClusters : List (List String) → List Char
  | [] => []
  | [hosts] => writeCluster hosts
  | hosts :: rest => writeCluster hosts ++ '\n' :: writeClusters rest

/-- Writes a table, `AssignmentTable.to_toml_string`. -/
def write (table : AssignmentTable) : String :=
  match table.clusters with
  | [] => "clusters = []\n"
  | clusters => String.ofList (writeClusters clusters)

end AssignmentTable
end RegionalDial
