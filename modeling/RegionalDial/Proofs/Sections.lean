/-
# Bundles one after another

A reader of a bundle knows one thing besides the line in front of it: the section that is open, if
one is.  What it makes of a line hangs on nothing else (`turn`, `readLines_cons`), and at the end of
a text without a fault no section is open.  So such a text leaves no trace.  What follows it is
read as if it stood alone, provided that it starts with a line of its own (`read_append`).

For a bundle of certificates this means that two bundles can be put into one file.  The file is
taken when the second one has no fault and either of them holds a certificate, and a fault in the
second one refuses the whole file, whatever was read before it.
-/
import RegionalDial.Auth.Load

namespace RegionalDial
namespace Pem

/-! ## 1. Lines -/

/-- The text is empty, or its last line has an end. -/
def EndsItsLines (text : List UInt8) : Prop := text.getLast?.all endsLine = true

instance (text : List UInt8) : Decidable (EndsItsLines text) :=
  inferInstanceAs (Decidable (_ = true))

theorem EndsItsLines.tail {byte : UInt8} {rest : List UInt8} (h : EndsItsLines (byte :: rest)) :
    EndsItsLines rest := by
  cases rest with
  | nil => rfl
  | cons next more => exact h

theorem lines_ne_nil {text : List UInt8} (h : text ≠ []) : lines text ≠ [] := by
  cases text with
  | nil => exact absurd rfl h
  | cons byte rest =>
    rw [lines]
    split
    · simp
    · split <;> simp

/-- **After a line end, lines start anew.** -/
theorem lines_append {first : List UInt8} (h : EndsItsLines first) (second : List UInt8) :
    lines (first ++ second) = lines first ++ lines second := by
  induction first with
  | nil => rfl
  | cons byte rest ih =>
    have hrest : lines (rest ++ second) = lines rest ++ lines second := ih h.tail
    rw [List.cons_append, lines, lines, hrest]
    split
    · rfl
    · rename_i hgoesOn
      -- The line of this byte goes on, so this byte is not the last one.
      have hne : lines rest ≠ [] := by
        apply lines_ne_nil
        rintro rfl
        exact hgoesOn h
      cases hlines : lines rest with
      | nil => exact absurd hlines hne
      | cons line more => rfl

/-! ## 2. What one line does -/

/-- What a reader makes of a line. -/
inductive Turn where
  | fault
  /-- It reads on, in the section that is open then. -/
  | goOn (opened? : Option Opened)
  | closed (found : Section)
deriving DecidableEq

/-- The turn that a line brings, under the section that is open. -/
def turn (opened? : Option Opened) (line : List UInt8) : Turn :=
  if opening.isPrefixOf line then
    match openedLabel? line with
    | none => .fault
    | some label => .goOn (some ⟨label, (opened?.map Opened.gathered).getD []⟩)
  else
    match opened? with
    | none => .goOn none
    | some opened =>
      if (closing opened.label).isPrefixOf line then
        match Kind.ofLabel? opened.label with
        | none => .goOn none
        | some kind =>
          match Base64.decode? opened.gathered with
          | none => .fault
          | some content => .closed ⟨kind, content⟩
      else .goOn (some { opened with gathered := opened.gathered ++ line })

/-- What is read when these lines follow a turn. -/
def Turn.before (rest : List (List UInt8)) : Turn → Reading
  | fault => ⟨[], false⟩
  | goOn opened? => readLines opened? rest
  | closed found => (readLines none rest).cons found

/-- **A reader goes from turn to turn.** -/
theorem readLines_cons (opened? : Option Opened) (line : List UInt8) (rest : List (List UInt8)) :
    readLines opened? (line :: rest) = (turn opened? line).before rest := by
  cases opened? with
  | none =>
    rw [readLines, turn]
    split
    · cases openedLabel? line <;> rfl
    · rfl
  | some opened =>
    rw [readLines, turn]
    split
    · cases openedLabel? line <;> rfl
    · split
      · cases Kind.ofLabel? opened.label with
        | none => rfl
        | some kind => cases Base64.decode? opened.gathered <;> rfl
      · rfl

/-! ## 3. Readings -/

/-- The reading of a text without a fault, and then another one. -/
def Reading.append (first second : Reading) : Reading :=
  ⟨first.sections ++ second.sections, second.faultless⟩

/-- **Where there is no fault, no section is left open**: the lines after it are read from the
start. -/
theorem readLines_append {opened? : Option Opened} {before : List (List UInt8)}
    (h : (readLines opened? before).faultless = true) (after : List (List UInt8)) :
    readLines opened? (before ++ after) =
      (readLines opened? before).append (readLines none after) := by
  induction before generalizing opened? with
  | nil =>
    cases opened? with
    | none => rfl
    | some opened => exact absurd h (by simp [readLines])
  | cons line rest ih =>
    rw [readLines_cons] at h
    rw [List.cons_append, readLines_cons, readLines_cons]
    cases hturn : turn opened? line with
    | fault =>
      rw [hturn] at h
      exact absurd h (by simp [Turn.before])
    | goOn next =>
      rw [hturn] at h
      exact ih h
    | closed found =>
      rw [hturn] at h
      have hrest : readLines none (rest ++ after) =
          (readLines none rest).append (readLines none after) := ih h
      rw [Turn.before, hrest]
      rfl

/-- **A text without a fault leaves no trace.** -/
theorem read_append {first : List UInt8} (hends : EndsItsLines first)
    (hfirst : (read first).faultless = true) (second : List UInt8) :
    read (first ++ second) = (read first).append (read second) := by
  rw [read, lines_append hends]
  exact readLines_append hfirst _

/-! ## 4. Certificates -/

/-- A certificate is read from the bundle. -/
def HoldsCertificate (bundle : List UInt8) : Prop :=
  ∃ found ∈ (read bundle).sections, found.kind = .certificate

/-- What a bundle has to be: without a fault, and with a certificate. -/
def IsSound (bundle : List UInt8) : Prop :=
  (read bundle).faultless = true ∧ HoldsCertificate bundle

theorem certificates?_of_isSound {bundle : List UInt8} (h : IsSound bundle) :
    ∃ certificate others, certificates? bundle = some (certificate :: others) := by
  obtain ⟨hfaultless, found, hmem, hkind⟩ := h
  have hcontent : found.content ∈
      ((read bundle).sections.filter (·.kind = .certificate)).map Section.content :=
    List.mem_map_of_mem (List.mem_filter.mpr ⟨hmem, decide_eq_true hkind⟩)
  obtain ⟨certificate, others, hlist⟩ := List.exists_cons_of_ne_nil (List.ne_nil_of_mem hcontent)
  exact ⟨certificate, others, by rw [certificates?, if_pos hfaultless, hlist]⟩

theorem isSound_of_certificates? {bundle certificate : List UInt8} {others : List (List UInt8)}
    (h : certificates? bundle = some (certificate :: others)) : IsSound bundle := by
  rw [certificates?] at h
  split at h
  · rename_i hfaultless
    have hmem : certificate ∈
        ((read bundle).sections.filter (·.kind = .certificate)).map Section.content := by
      rw [Option.some.inj h]
      exact List.mem_cons_self
    obtain ⟨found, hfound, -⟩ := List.mem_map.mp hmem
    obtain ⟨hsections, hkind⟩ := List.mem_filter.mp hfound
    exact ⟨hfaultless, found, hsections, of_decide_eq_true hkind⟩
  · exact absurd h (by simp)

/-- **Two bundles in one are sound when the second has no fault and there is a certificate.** -/
theorem isSound_append_iff {first : List UInt8} (hends : EndsItsLines first)
    (hfirst : (read first).faultless = true) (second : List UInt8) :
    IsSound (first ++ second) ↔
      (read second).faultless = true ∧ (HoldsCertificate first ∨ HoldsCertificate second) := by
  rw [IsSound, HoldsCertificate, read_append hends hfirst, Reading.append]
  refine and_congr_right fun _ => ?_
  simp only [HoldsCertificate, List.mem_append, or_and_right, exists_or]

end Pem

namespace Auth

open Pem

variable {files : File.System} {auth : Auth} {path : Path} {bundle : List UInt8}
  {token : AccessToken}

/-! ## 5. Files -/

theorem loadCa_of_isSound (hread : files.read path = .ok bundle) (h : IsSound bundle) :
    loadCa files path = .ok bundle := by
  obtain ⟨certificate, others, hcertificates⟩ := certificates?_of_isSound h
  rw [loadCa, hread]
  simp only [hcertificates]

theorem loadCa_of_not_isSound (hread : files.read path = .ok bundle) (h : ¬ IsSound bundle) :
    loadCa files path = .error (.invalidCa path) := by
  rw [loadCa, hread]
  simp only
  split
  · rename_i certificate others hcertificates
    exact absurd (isSound_of_certificates? hcertificates) h
  · rfl

/-- With a token, loading the bundle decides whether the flag can be used. -/
theorem configure_of_loadCa (hpath : auth.caFile = some path)
    (htoken : auth.credentials files = .ok token) :
    auth.configure files = (loadCa files path).map fun bundle =>
      (Dial.Options.plaintext.withBundle bundle).withToken token := by
  rw [configure, htoken, secured, hpath]
  simp only
  cases loadCa files path <;> rfl

/-- **Bundles can be put one after another.**  When the first one has no fault and its last line
has an end, a file that holds both is taken if the second one has no fault either and there is a
certificate in one of them, and in every other case it is refused under the name of its path.  The
sections of the file are those of the first and then those of the second, which are the same
whatever stands before them. -/
theorem loadCa_of_joined_bundles {first second : List UInt8}
    (hread : files.read path = .ok (first ++ second)) (hends : EndsItsLines first)
    (hfirst : (read first).faultless = true) :
    let taken := (read second).faultless = true ∧ (HoldsCertificate first ∨ HoldsCertificate second)
    read (first ++ second) =
      ⟨(read first).sections ++ (read second).sections, (read second).faultless⟩ ∧
    (taken → loadCa files path = .ok (first ++ second)) ∧
    (¬ taken → loadCa files path = .error (.invalidCa path)) ∧
    ∀ (auth : Auth) (token : AccessToken), auth.caFile = some path →
      auth.credentials files = .ok token →
      (taken → auth.configure files =
        .ok ((Dial.Options.plaintext.withBundle (first ++ second)).withToken token)) ∧
      (¬ taken → auth.configure files = .error (.invalidCa path)) := by
  intro taken
  have hsound : IsSound (first ++ second) ↔ taken := isSound_append_iff hends hfirst second
  have htaken : taken → loadCa files path = .ok (first ++ second) := fun h =>
    loadCa_of_isSound hread (hsound.mpr h)
  have hrefused : ¬ taken → loadCa files path = .error (.invalidCa path) := fun h =>
    loadCa_of_not_isSound hread fun hboth => h (hsound.mp hboth)
  refine ⟨read_append hends hfirst second, htaken, hrefused, fun auth token hpath htoken =>
    ⟨fun h => ?_, fun h => ?_⟩⟩
  · rw [configure_of_loadCa hpath htoken, htaken h]
    rfl
  · rw [configure_of_loadCa hpath htoken, hrefused h]
    rfl

/-- A remark, a section of an unknown kind and a key. -/
def remarks : List UInt8 :=
  Text.Utf8.encode ("a remark\n-----BEGIN NOTE-----\n?\n-----END NOTE-----\r\n" ++
    "-----BEGIN PUBLIC KEY-----\nAAAA\n-----END PUBLIC KEY-----\r")

/-- A section with a certificate of three bytes, which is not looked into. -/
def certificateSection : List UInt8 :=
  Text.Utf8.encode "-----BEGIN CERTIFICATE-----\nAAAA\n-----END CERTIFICATE-----\n"

/-- A certificate is taken after what is none. -/
theorem bundle_after_remarks_is_taken :
    EndsItsLines remarks ∧ (read remarks).faultless = true ∧
      loadCa ⟨fun _ => .ok (remarks ++ certificateSection)⟩ (Path.ofString "ca") =
        .ok (remarks ++ certificateSection) := by
  have hends : EndsItsLines remarks := by decide
  have hfirst : (read remarks).faultless = true := by decide
  have hsecond : (read certificateSection).faultless = true ∧
      (HoldsCertificate remarks ∨ HoldsCertificate certificateSection) :=
    ⟨by decide, .inr ⟨⟨.certificate, [0, 0, 0]⟩, by decide, rfl⟩⟩
  exact ⟨hends, hfirst, (loadCa_of_joined_bundles rfl hends hfirst).2.1 hsecond⟩

/-- A section without its end takes the certificate before it along. -/
example :
    loadCa ⟨fun _ => .ok (certificateSection ++ certificateSection.dropLast.dropLast)⟩
        (Path.ofString "ca") = .error (.invalidCa (Path.ofString "ca")) :=
  rfl

end Auth
end RegionalDial
