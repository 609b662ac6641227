/-
# Reports in JSON

A report holds a host name that comes from a server, and nothing has checked its characters.  What
is written for the report is a JSON object all the same, and reading it gives the five values back
(`Report.read?_toJson`): a character is escaped or it stands for itself, and reading undoes the
escape of each (`Json.readText_escape`).  So the text determines the report.

Three of the values are not independent.  Whether there was a redirection and the reason come from
one resolution, and the toggle is the one under which it was made; turned off, it ends every
resolution before the lookup, and no lookup ends like that.
-/
import RegionalDial.Proofs.Commands
import RegionalDial.Proofs.Json
import RegionalDial.Proofs.Resolving

namespace RegionalDial

/-! ## 1. Reading a report -/

namespace Report

/-- What a report says in JSON. -/
def toObject (report : Report) : Json :=
  .object [("server", .string report.server), ("endpoint", .string report.endpoint),
    ("redirected", .bool report.redirected), ("reason", .string report.reason),
    ("toggle", .string report.toggle)]

theorem toObject_inj {a b : Report} (h : a.toObject = b.toObject) : a = b := by
  cases a
  cases b
  simpa [toObject] using h

/-- Every member is written as JSON. -/
theorem reads_members (report : Report) (depth : Nat) :
    Json.ReadsMembers (Json.readValue (depth + 1)) report.members
      [("server", .string report.server), ("endpoint", .string report.endpoint),
        ("redirected", .bool report.redirected), ("reason", .string report.reason),
        ("toggle", .string report.toggle)] :=
  .more (Json.reads_jsonText depth report.server) <|
  .more (Json.reads_jsonText depth report.endpoint) <|
  .more (Json.reads_jsonBool depth report.redirected) <|
  .more (Json.reads_jsonText depth report.reason) <|
  .last (Json.reads_jsonText depth report.toggle)

/-- **A report is read back.** -/
theorem read?_toJson (report : Report) : Json.read? report.toJson = some report.toObject := by
  have htext : report.toJson.toList =
      '\x7b' :: '\n' :: (writeMembers report.members ++ '\x7d' :: []) := by
    rw [toJson, String.toList_ofList, List.append_assoc]
    rfl
  obtain ⟨depth, hdepth⟩ : ∃ depth, report.toJson.length = depth + 1 := by
    rw [← String.length_toList, htext]
    exact ⟨_, rfl⟩
  have hread := Json.readValue_object (report.reads_members depth) []
  rw [Json.read?, htext, hdepth, Json.dropBlanks_cons rfl, hread]
  rfl

/-- The text of a report determines it. -/
theorem toJson_inj {a b : Report} (h : a.toJson = b.toJson) : a = b := by
  have hread := a.read?_toJson
  rw [h, read?_toJson] at hread
  exact (toObject_inj (Option.some.inj hread)).symm

end Report

/-! ## 2. What the values of a report have in common -/

namespace Redirect

theorem Reason.text_eq_redirected_iff {reason : Reason} :
    reason.text = "redirected" ↔ reason = .redirected := by
  cases reason <;> decide

theorem Reason.text_eq_disabled_iff {reason : Reason} :
    reason.text = "redirection disabled" ↔ reason = .disabled := by
  cases reason <;> decide

end Redirect

theorem Toggle.text_eq_disabled_iff {toggle : Toggle} :
    toggle.text = "disabled" ↔ toggle = .disabled := by
  cases toggle <;> decide

namespace Redirect

variable {ε : Type} {resolver : Resolver ε} {server : String} {options : Dial.Options}
  {resolution : Resolution}

/-- No answer of a lookup means that redirection is turned off. -/
theorem Resolution.reason_ofAnswer {answer : Except LookupError ClusterSet}
    (h : Resolution.ofAnswer server answer = .ok resolution) : resolution.reason ≠ .disabled := by
  cases answer with
  | error failure =>
    cases failure with
    | unimplemented other =>
      obtain rfl := Except.ok.inj h
      exact Reason.noConfusion
    | failed error => exact absurd h (by simp [ofAnswer])
  | ok clusters =>
    rw [ofAnswer, ofClusters] at h
    split at h
    · obtain rfl := Except.ok.inj h
      exact Reason.noConfusion
    · exact absurd h (by simp)

/-- **The reason says that redirection is turned off exactly when it is.** -/
theorem Resolver.reason_eq_disabled_iff
    (h : (resolver.resolve server options).value? = some (.ok resolution)) :
    resolution.reason = .disabled ↔ resolver.toggle = .disabled := by
  rw [← Toggle.isEnabled_eq_false_iff]
  cases hon : resolver.toggle.isEnabled with
  | false =>
    rw [resolve_of_disabled hon] at h
    obtain rfl := Except.ok.inj (Option.some.inj h)
    exact ⟨fun _ => rfl, fun _ => rfl⟩
  | true =>
    rcases resolve_ends hon h with ⟨limit, -, -, hresult⟩ | ⟨answer, -, -, hresult⟩
    · exact absurd hresult (by simp)
    · have hreason := Resolution.reason_ofAnswer hresult.symm
      simp [hreason]

/-- Without a redirection the endpoint is the server. -/
theorem Resolver.endpoint_eq_of_not_redirected
    (h : (resolver.resolve server options).value? = some (.ok resolution))
    (hreason : resolution.reason ≠ .redirected) : resolution.endpoint = server := by
  rcases resolution_cases h with rfl | rfl | ⟨clusters, -, -, hredirected⟩
  · rfl
  · rfl
  · exact absurd hredirected hreason

/-- **A report in JSON says what was resolved, whatever its characters are.**  It is read back as
an object of the five members, with exactly the values of the report, and two reports with one
text are the same.  It says that the server was redirected when this is its reason, it shows the
server itself where it was not, and it shows the toggle as disabled when redirection being disabled
is the reason. -/
theorem json_report_says_what_was_resolved
    (h : (resolver.resolve server options).value? = some (.ok resolution)) :
    let report := Report.ofResolution server resolution resolver.toggle
    Json.read? (report.render "json") = some (.object [("server", .string server),
      ("endpoint", .string resolution.endpoint), ("redirected", .bool resolution.isRedirected),
      ("reason", .string resolution.reason.text), ("toggle", .string resolver.toggle.text)]) ∧
    (∀ other : Report, other.render "json" = report.render "json" → other = report) ∧
    (report.redirected = true ↔ report.reason = "redirected") ∧
    (report.redirected = false → report.endpoint = report.server) ∧
    (report.toggle = "disabled" ↔ report.reason = "redirection disabled") := by
  intro report
  have hjson (report : Report) : report.render "json" = report.toJson := if_pos rfl
  refine ⟨?_, ?_, ?_, ?_, ?_⟩
  · rw [hjson]
    exact report.read?_toJson
  · intro other hsame
    rw [hjson, hjson] at hsame
    exact Report.toJson_inj hsame
  · exact decide_eq_true_iff.trans Reason.text_eq_redirected_iff.symm
  · intro hnot
    exact Resolver.endpoint_eq_of_not_redirected h (of_decide_eq_false hnot)
  · exact Toggle.text_eq_disabled_iff.trans
      ((Resolver.reason_eq_disabled_iff h).symm.trans Reason.text_eq_disabled_iff.symm)

/-- A lookup that assigns a host whose name is full of characters that JSON escapes. -/
def hostileLookup : Lookup Unit := fun _ _ => .done (.ok ⟨[⟨["\"h\\\n\x01é"]⟩]⟩)

/-- This name is read back. -/
theorem hostile_name_is_read_back :
    let report := Report.ofResolution "e" ⟨"\"h\\\n\x01é", .redirected⟩ .default
    let resolver : Resolver Unit := ⟨hostileLookup, .default, none, fun _ _ => ⟨0⟩⟩
    (resolver.resolve "e" .plaintext).value? = some (.ok ⟨"\"h\\\n\x01é", .redirected⟩) ∧
      Json.read? (report.render "json") = some (.object [("server", .string "e"),
        ("endpoint", .string "\"h\\\n\x01é"), ("redirected", .bool true),
        ("reason", .string "redirected"), ("toggle", .string "default")]) := by
  intro report resolver
  have hresolved : (resolver.resolve "e" .plaintext).value? =
      some (.ok ⟨"\"h\\\n\x01é", .redirected⟩) := by rfl
  exact ⟨hresolved, (json_report_says_what_was_resolved hresolved).1⟩

end Redirect

/-! ## 3. What is printed -/

namespace Command

variable {host : Host} {target : Target}

/-- **The command for resolving prints this report.**  What it prints in JSON is read as the
resolution that was made with the options of the target. -/
theorem read?_printed {text : String} (h : (resolve host target "json").value? = some (.ok text)) :
    ∃ options resolution, target.dialOptions host.files = .ok options ∧
      ((host.resolver target).resolve target.server options).value? = some (.ok resolution) ∧
      Json.read? text =
        some (Report.ofResolution target.server resolution host.toggle).toObject := by
  cases hoptions : target.dialOptions host.files with
  | error error =>
    rw [resolve_of_refused hoptions] at h
    exact absurd h (by simp [Run.value?])
  | ok options =>
    rw [value?_resolve hoptions] at h
    obtain ⟨resolved, hresolved, htext⟩ := Option.map_eq_some_iff.mp h
    cases resolved with
    | error error => exact absurd htext (by simp)
    | ok resolution =>
      obtain rfl := Except.ok.inj htext
      refine ⟨options, resolution, rfl, hresolved, ?_⟩
      exact Report.read?_toJson _

end Command
end RegionalDial
