/-
# Tables, written and read

A table is written as a document, and reading this document gives the table back (`parse?_write`).
Its hosts may be any texts, and how each is written depends on its characters; so does the layout
of a list of hosts on their number.  None of this shows in what is read.

The proof goes the way of the reader.  A text among the items of an array is read as itself
(`readValue_quoted`), a list of hosts as an array of their texts, whether it stands on one line
or on several (`readValue_writeHosts`), and a cluster as two statements, its header and its hosts
(`readStatements_writeCluster`).  These two add one table to those that were opened before
(`building_step_element`, `building_step_pair`), and so, by induction on the clusters, the document
holds one table for each (`foldlM_statements`).  A table without clusters has no header to write and
is one line of its own.
-/
import Mathlib.Data.List.Forall2
import RegionalDial.Proofs.Quoting
import RegionalDial.Table

namespace RegionalDial
namespace Toml

/-! ## 1. Texts among the items of an array -/

/-- A text starts with a quote. -/
theorem Writer.exists_quoted_eq_cons (cs : List Char) :
    ∃ mark more, quoted cs = mark :: more ∧ (mark = '"' ∨ mark = '\'') := by
  rw [quoted]
  cases style cs with
  | basic | basicLines => exact ⟨'"', _, rfl, .inl rfl⟩
  | literal | literalLines => exact ⟨'\'', _, rfl, .inr rfl⟩

/-- A text is read as a value, when no quote follows it. -/
theorem readValue_quoted (nesting : Nat) (cs rest : List Char)
    (hdouble : rest.head? ≠ some '"') (hsingle : rest.head? ≠ some '\'') :
    readValue nesting (Writer.quoted cs ++ rest) = some (.text (String.ofList cs), rest) := by
  have hread := readText_quoted cs hdouble hsingle
  obtain ⟨mark, more, hquoted, hmark⟩ := Writer.exists_quoted_eq_cons cs
  rw [hquoted, List.cons_append] at hread ⊢
  have hopens : (decide (mark = '"') || decide (mark = '\'')) = true := by
    rwa [Bool.or_eq_true, decide_eq_true_iff, decide_eq_true_iff]
  rw [readValue.eq_def]
  simp only [hopens, if_true, hread, Option.map_some]

theorem dropBlanks_quoted (cs rest : List Char) :
    dropBlanks false (Writer.quoted cs ++ rest) = some (Writer.quoted cs ++ rest) := by
  obtain ⟨mark, more, hquoted, hmark⟩ := Writer.exists_quoted_eq_cons cs
  rw [hquoted, List.cons_append]
  rcases hmark with rfl | rfl
  · rfl
  · rfl

section Items

variable {item : List Char → Option (Value × List Char)} {value : Value}
  {cs written rest behind : List Char}

/-- An item that starts with a quote, and a comma behind it. -/
theorem readItems_quoted_comma (fuel : Nat)
    (hblanks : dropBlanks false written = some (Writer.quoted cs ++ rest))
    (hread : item (Writer.quoted cs ++ rest) = some (value, ',' :: behind)) :
    readItems item (fuel + 1) written =
      (readItems item fuel behind).map fun (values, rest) => (value :: values, rest) := by
  have hcomma : dropBlanks false (',' :: behind) = some (',' :: behind) := rfl
  obtain ⟨mark, more, hquoted, hmark⟩ := Writer.exists_quoted_eq_cons cs
  rw [hquoted, List.cons_append] at hread hblanks
  rcases hmark with rfl | rfl
  · simp [readItems, hblanks, hread, hcomma]
  · simp [readItems, hblanks, hread, hcomma]

/-- An item that starts with a quote, and the closing bracket behind it. -/
theorem readItems_quoted_bracket (fuel : Nat)
    (hblanks : dropBlanks false written = some (Writer.quoted cs ++ rest))
    (hread : item (Writer.quoted cs ++ rest) = some (value, ']' :: behind)) :
    readItems item (fuel + 1) written = some ([value], behind) := by
  have hbracket : dropBlanks false (']' :: behind) = some (']' :: behind) := rfl
  obtain ⟨mark, more, hquoted, hmark⟩ := Writer.exists_quoted_eq_cons cs
  rw [hquoted, List.cons_append] at hread hblanks
  rcases hmark with rfl | rfl
  · simp [readItems, hblanks, hread, hbracket]
  · simp [readItems, hblanks, hread, hbracket]

end Items

end Toml

namespace AssignmentTable

open Toml

/-! ## 2. Hosts -/

/-- The lines of several hosts. -/
def hostLines (hosts : List String) : List Char :=
  hosts.flatMap fun host => "    ".toList ++ Writer.quoted host.toList ++ [',', '\n']

/-- **Hosts on lines of their own are read in order.** -/
theorem readItems_lines (nesting : Nat) (hosts : List String) {fuel : Nat}
    (hfuel : hosts.length < fuel) (rest : List Char) :
    readItems (readValue nesting) fuel ('\n' :: (hostLines hosts ++ ']' :: rest)) =
      some (hosts.map Value.text, rest) := by
  induction hosts generalizing fuel with
  | nil =>
    obtain ⟨fuel, rfl⟩ := Nat.exists_eq_add_of_le' hfuel
    rfl
  | cons host hosts ih =>
    obtain ⟨fuel, rfl⟩ := Nat.exists_eq_add_of_le' (Nat.lt_of_le_of_lt (Nat.zero_le _) hfuel)
    have hmore := ih (Nat.lt_of_succ_lt_succ hfuel)
    let behind := ',' :: '\n' :: (hostLines hosts ++ ']' :: rest)
    have hblanks : dropBlanks false ('\n' :: (hostLines (host :: hosts) ++ ']' :: rest)) =
        some (Writer.quoted host.toList ++ behind) := by
      rw [hostLines, List.flatMap_cons]
      simp only [List.append_assoc]
      exact dropBlanks_quoted host.toList behind
    have hread := readValue_quoted nesting host.toList behind nofun nofun
    rw [readItems_quoted_comma fuel hblanks hread, hmore, String.ofList_toList]
    rfl

theorem length_le_hostLines (hosts : List String) :
    hosts.length ≤ (hostLines hosts).length := by
  induction hosts with
  | nil => exact Nat.le_refl 0
  | cons host hosts ih =>
    rw [hostLines, List.flatMap_cons, List.length_append, List.length_append, List.length_cons,
      List.length_cons, ← hostLines]
    omega

/-- **A list of hosts is read back**, in whichever layout it was written. -/
theorem readValue_writeHosts (nesting : Nat) (hosts : List String) (rest : List Char) :
    readValue (nesting + 1) (writeHosts hosts ++ rest) =
      some (.array (hosts.map Value.text), rest) := by
  have harray (cs : List Char) : readValue (nesting + 1) ('[' :: cs) =
      (readItems (readValue nesting) (cs.length + 1) cs).map fun (items, rest) =>
        (.array items, rest) := rfl
  fun_cases writeHosts hosts with
  | case1 => rfl
  | case2 host =>
    have hblanks := dropBlanks_quoted host.toList (']' :: rest)
    have hread := readValue_quoted nesting host.toList (']' :: rest) nofun nofun
    rw [List.cons_append, List.cons_append, List.append_assoc, harray, List.singleton_append,
      readItems_quoted_bracket _ hblanks hread, String.ofList_toList]
    rfl
  | case3 =>
    rw [← hostLines, List.append_assoc, List.append_assoc, List.cons_append, List.singleton_append,
      harray, List.singleton_append, readItems_lines, Option.map_some]
    have hlength := length_le_hostLines hosts
    rw [List.length_cons, List.length_append]
    omega

/-! ## 3. Statements -/

theorem exists_writeHosts_eq_cons (hosts : List String) :
    ∃ more, writeHosts hosts = '[' :: more := by
  fun_cases writeHosts hosts with
  | case1 | case2 | case3 => exact ⟨_, rfl⟩

/-- The hosts of a cluster are read with the rest of their line. -/
theorem readStatement_hosts (hosts : List String) (rest : List Char) :
    readStatement ("hosts = ".toList ++ (writeHosts hosts ++ '\n' :: rest)) =
      some (.pair [] "hosts" (.array (hosts.map Value.text)), rest) := by
  have hpair (cs : List Char) : readPair (readValue deepestValue) ("hosts = ".toList ++ cs) =
      (readValue deepestValue (dropSpaces cs)).map fun found =>
        ((([], "hosts"), found.1), dropSpaces found.2) := rfl
  have hspaces : dropSpaces (writeHosts hosts ++ '\n' :: rest) =
      writeHosts hosts ++ '\n' :: rest := by
    obtain ⟨more, hmore⟩ := exists_writeHosts_eq_cons hosts
    rw [hmore]
    rfl
  change readAssignment _ = _
  rw [readAssignment, hpair, hspaces, deepestValue, readValue_writeHosts]
  rfl

/-- What a cluster is written as. -/
def statements (hosts : List String) : List Statement :=
  [.element [] "clusters", .pair [] "hosts" (.array (hosts.map Value.text))]

/-- A line that does not start as a comment and is not empty is read as a statement. -/
theorem readStatements_statement (fuel : Nat) {cs more rest : List Char} {c : Char}
    {statement : Statement} (hstarts : dropSpaces cs = c :: more)
    (hline : (c = '#' || c = '\n' || c = '\r') = false)
    (hread : readStatement (c :: more) = some (statement, rest)) :
    readStatements (fuel + 1) cs = (readStatements fuel rest).map (statement :: ·) := by
  rw [readStatements, hstarts]
  simp only [hline, hread, Bool.false_eq_true, if_false]

/-- **A cluster is read as its header and its hosts.** -/
theorem readStatements_writeCluster (hosts : List String) (fuel : Nat) (rest : List Char) :
    readStatements (fuel + 2) (writeCluster hosts ++ rest) =
      (readStatements fuel rest).map (statements hosts ++ ·) := by
  have hheader (cs : List Char) : readStatements (fuel + 2) ("[[clusters]]\n".toList ++ cs) =
      (readStatements (fuel + 1) cs).map (.element [] "clusters" :: ·) :=
    readStatements_statement (fuel + 1) rfl rfl rfl
  have hhosts :
      readStatements (fuel + 1) ("hosts = ".toList ++ (writeHosts hosts ++ '\n' :: rest)) =
        (readStatements fuel rest).map (.pair [] "hosts" (.array (hosts.map Value.text)) :: ·) :=
    readStatements_statement fuel rfl rfl (readStatement_hosts hosts rest)
  have hwritten : writeCluster hosts ++ rest =
      "[[clusters]]\n".toList ++ ("hosts = ".toList ++ (writeHosts hosts ++ '\n' :: rest)) := by
    unfold writeCluster
    rw [List.append_assoc, List.append_assoc]
    rfl
  rw [hwritten, hheader, hhosts, Option.map_map]
  rfl

/-- **Clusters are read in order**, the empty lines between them apart. -/
theorem readStatements_writeClusters (clusters : List (List String)) {fuel : Nat}
    (hfuel : 3 * clusters.length < fuel) :
    readStatements fuel (writeClusters clusters) = some (clusters.flatMap statements) := by
  induction clusters generalizing fuel with
  | nil =>
    obtain ⟨fuel, rfl⟩ := Nat.exists_eq_add_of_le' hfuel
    rfl
  | cons hosts clusters ih =>
    rw [List.length_cons] at hfuel
    obtain ⟨fuel, rfl⟩ : ∃ fewer, fuel = fewer + 1 + 2 := ⟨fuel - 3, by omega⟩
    cases clusters with
    | nil =>
      have hread := readStatements_writeCluster hosts (fuel + 1) []
      rw [List.append_nil] at hread
      rw [writeClusters, hread]
      rfl
    | cons next clusters =>
      rw [writeClusters, readStatements_writeCluster]
      · have hline (cs : List Char) :
            readStatements (fuel + 1) ('\n' :: cs) = readStatements fuel cs := rfl
        rw [hline, ih (by omega), Option.map_some]
        rfl
      · exact List.cons_ne_nil _ _

/-! ## 4. What the statements build -/

/-- The document behind the header of a cluster: the clusters before it, and what it holds. -/
def building (before : List Entries) (opened : Entries) : Builder :=
  ⟨[("clusters", .tables before)], opened, some ([], "clusters"), true⟩

/-- What a cluster holds. -/
def entries (hosts : List String) : Entries := [("hosts", .array (hosts.map Value.text))]

theorem start_step_element :
    Builder.start.step (.element [] "clusters") = some (building [] []) := rfl

theorem building_step_element (before : List Entries) (opened : Entries) :
    (building before opened).step (.element [] "clusters") =
      some (building (before ++ [opened]) []) := rfl

theorem building_step_pair (before : List Entries) (value : Value) :
    (building before []).step (.pair [] "hosts" value) =
      some (building before [("hosts", value)]) := rfl

theorem close_building (before : List Entries) (opened : Entries) :
    (building before opened).close = some [("clusters", .tables (before ++ [opened]))] := rfl

/-- **Clusters are added to those before them, in order.** -/
theorem foldlM_statements (clusters : List (List String)) (before : List Entries)
    (opened : Entries) :
    ((clusters.flatMap statements).foldlM Builder.step (building before opened)).bind
        Builder.close =
      some [("clusters", .tables (before ++ opened :: clusters.map entries))] := by
  induction clusters generalizing before opened with
  | nil => exact close_building before opened
  | cons hosts clusters ih =>
    rw [List.flatMap_cons, statements, List.cons_append, List.singleton_append, List.foldlM_cons,
      building_step_element, Option.bind_eq_bind, Option.bind_some, List.foldlM_cons,
      building_step_pair, Option.bind_eq_bind, Option.bind_some, ih, List.append_assoc]
    rfl

/-- **A document of clusters holds these.** -/
theorem build_statements {clusters : List (List String)} (hne : clusters ≠ []) :
    ((clusters.flatMap statements).foldlM Builder.step Builder.start).bind Builder.close =
      some [("clusters", .tables (clusters.map entries))] := by
  obtain ⟨hosts, more, rfl⟩ := List.exists_cons_of_ne_nil hne
  rw [List.flatMap_cons, statements, List.cons_append, List.singleton_append, List.foldlM_cons,
    start_step_element, Option.bind_eq_bind, Option.bind_some, List.foldlM_cons,
    building_step_pair, Option.bind_eq_bind, Option.bind_some, foldlM_statements]
  rfl

/-! ## 5. Reading a table back -/

/-- What is read back one by one is read back as a list. -/
theorem mapM_map_eq_some {α β : Type} {read : β → Option α} {write : α → β}
    (h : ∀ a, read (write a) = some a) (as : List α) : (as.map write).mapM read = some as := by
  have hread : read ∘ write = fun a => pure a := funext h
  rw [List.mapM_map, hread, List.mapM_pure, List.map_id']
  rfl

theorem hostsOfEntries?_entries (hosts : List String) :
    hostsOfEntries? (entries hosts) = some hosts := by
  have hlookup : (entries hosts).lookup "hosts" = some (.array (hosts.map Value.text)) := rfl
  have htext (host : String) : text? (.text host) = some host := rfl
  rw [hostsOfEntries?, hlookup]
  exact mapM_map_eq_some htext hosts

theorem ofEntries?_clusters (clusters : List (List String)) :
    ofEntries? [("clusters", .tables (clusters.map entries))] = some ⟨clusters⟩ := by
  have hlookup : List.lookup "clusters" [("clusters", Value.tables (clusters.map entries))] =
      some (.tables (clusters.map entries)) := rfl
  rw [ofEntries?, hlookup]
  simp only [mapM_map_eq_some hostsOfEntries?_entries, Option.map_some]

/-- A cluster starts with its header. -/
theorem exists_writeCluster_eq_cons (hosts : List String) :
    ∃ more, writeCluster hosts = '[' :: '[' :: 'c' :: more := ⟨_, rfl⟩

theorem length_le_writeClusters (clusters : List (List String)) :
    3 * clusters.length ≤ (writeClusters clusters).length := by
  fun_induction writeClusters clusters with
  | case1 => exact Nat.le_refl 0
  | case2 hosts =>
    obtain ⟨more, hmore⟩ := exists_writeCluster_eq_cons hosts
    simp only [hmore, List.length_cons, List.length_nil]
    omega
  | case3 hosts clusters hne ih =>
    obtain ⟨more, hmore⟩ := exists_writeCluster_eq_cons hosts
    simp only [hmore, List.length_cons, List.length_append]
    omega

theorem exists_writeClusters_eq_cons (hosts : List String) (clusters : List (List String)) :
    ∃ more, writeClusters (hosts :: clusters) = '[' :: more := by
  obtain ⟨more, hmore⟩ := exists_writeCluster_eq_cons hosts
  cases clusters with
  | nil => exact ⟨_, hmore⟩
  | cons next clusters =>
    rw [writeClusters, hmore]
    · exact ⟨_, rfl⟩
    · exact List.cons_ne_nil _ _

/-- **The statements of a written document are those of its clusters.** -/
theorem statements?_writeClusters {clusters : List (List String)} (hne : clusters ≠ []) :
    statements? (String.ofList (writeClusters clusters)) = some (clusters.flatMap statements) := by
  have hlength := length_le_writeClusters clusters
  have hread := readStatements_writeClusters clusters (Nat.lt_succ_of_le hlength)
  obtain ⟨hosts, others, rfl⟩ := List.exists_cons_of_ne_nil hne
  obtain ⟨more, hmore⟩ := exists_writeClusters_eq_cons hosts others
  have hmark : '[' ≠ byteOrderMark := by decide
  rw [hmore] at hread ⊢
  rw [statements?, String.toList_ofList]
  simp only [if_neg hmark]
  exact hread

/-- **Every table is read back as it was written.** -/
theorem parse?_write (table : AssignmentTable) : parse? table.write = some table := by
  rcases table with ⟨_ | ⟨hosts, clusters⟩⟩
  · decide +kernel
  · have hne : hosts :: clusters ≠ [] := List.cons_ne_nil _ _
    rw [parse?, Toml.parse?, write, statements?_writeClusters hne, Option.bind_some,
      build_statements hne, Option.bind_some, ofEntries?_clusters]

/-- So is one that is written to a file. -/
theorem ofFile_of_written {files : File.System} {path : Path} {table : AssignmentTable}
    (h : files.read path = .ok (Text.Utf8.encode table.write)) : ofFile files path = .ok table := by
  have htext : files.readText path = .ok table.write := by
    rw [File.System.readText, h]
    simp only [Text.Utf8.decode?_encode]
  rw [ofFile, htext]
  simp only [parse?_write]

/-- The text of a table determines it. -/
theorem write_inj {a b : AssignmentTable} (h : a.write = b.write) : a = b := by
  have hread := parse?_write a
  rw [h, parse?_write] at hread
  exact (Option.some.inj hread).symm

/-- **A table that is written and read has its clusters and their hosts as they were**, in order,
whatever texts the hosts are; empty clusters and empty hosts are among them.  So it stands for the
same set, which has one cluster for each entry, with the hosts of the entry, and no two tables are
written alike. -/
theorem written_table_is_read_back (table : AssignmentTable) :
    ∃ back, parse? table.write = some back ∧
      back.clusters = table.clusters ∧
      back.clusterSet = table.clusterSet ∧
      List.Forall₂ (fun hosts cluster => cluster = Cluster.mk hosts) table.clusters
        back.clusterSet.clusters ∧
      ∀ other : AssignmentTable, other.write = table.write → other = table := by
  refine ⟨table, parse?_write table, rfl, rfl, ?_, ?_⟩
  · rw [clusterSet, ClusterSet.ofHosts, List.forall₂_map_right_iff, List.forall₂_same]
    exact fun _ _ => rfl
  · intro other h
    exact write_inj h

end AssignmentTable
end RegionalDial
