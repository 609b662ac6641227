/-
# Which fault is told

The options of a target are made of up to four files: that of a token, a bundle, a client
certificate and its key.  Any of them can be wrong, and several can be at once; one fault is told,
the first in this order.

So that the order can be said, every file is looked at alone, and what is wrong with each makes a
list (`Target.faults`).  The files of the client stand on it only when both are named.  Making
options is a chain of steps, and a chain tells the first fault of the steps it is made of
(`Reports.step`): it goes on where a step succeeds, and it ends where one fails.

Without a fault there are options, and they keep what each step has put into them: the token and
the roots of the flag under the client certificate, and the limit of the target in both places.
-/
import RegionalDial.Proofs.Commands
import RegionalDial.Proofs.Configuring

namespace RegionalDial

/-! ## 1. Chains of steps -/

section Chains

variable {ε δ α β : Type}

/-- What is wrong with the result of one step. -/
def failures : Except ε α → List ε
  | .error error => [error]
  | .ok _ => []

/-- A result that tells the first of some faults, and that is a value where there is none. -/
inductive Reports : List ε → Except ε α → Prop
  | first (error : ε) (more : List ε) : Reports (error :: more) (.error error)
  | value (a : α) : Reports [] (.ok a)

theorem reports_failures (result : Except ε α) : Reports (failures result) result := by
  cases result with
  | error error => exact .first error []
  | ok a => exact .value a

namespace Reports

variable {faults more : List ε} {result : Except ε α}

theorem eq_error_iff (h : Reports faults result) {error : ε} :
    result = .error error ↔ faults.head? = some error := by
  cases h with
  | first first more => simp
  | value a => simp

theorem exists_ok_iff (h : Reports faults result) : (∃ a, result = .ok a) ↔ faults = [] := by
  cases h with
  | first error more => simp
  | value a => simp

/-- **A chain tells the first fault of its steps.**  It ends with the error of a step, which may be
wrapped, and where the step succeeds it goes on with the later ones. -/
theorem step (wrap : ε → δ) {own later : List δ} {chain : Except δ β} (h : Reports faults result)
    (hown : faults.map wrap = own)
    (hends : ∀ error, result = .error error → chain = .error (wrap error))
    (hgoes : ∀ a, result = .ok a → Reports later chain) : Reports (own ++ later) chain := by
  subst hown
  cases h with
  | first error more =>
    rw [hends error rfl]
    exact .first (wrap error) (more.map wrap ++ later)
  | value a => exact hgoes a rfl

/-- The last step of a chain. -/
theorem last (wrap : ε → δ) {own : List δ} {chain : Except δ β} (h : Reports faults result)
    (hown : faults.map wrap = own)
    (hends : ∀ error, result = .error error → chain = .error (wrap error))
    (hgoes : ∀ a, result = .ok a → ∃ b, chain = .ok b) : Reports own chain := by
  rw [← List.append_nil own]
  refine h.step wrap hown hends fun a ha => ?_
  obtain ⟨b, hb⟩ := hgoes a ha
  rw [hb]
  exact .value b

end Reports

end Chains

/-! ## 2. The two files of a flag -/

namespace Auth

/-- What is wrong with the bundle of a flag, if one is named. -/
def bundleFaults (files : File.System) (auth : Auth) : List Error :=
  match auth.caFile with
  | none => []
  | some path => failures (loadCa files path)

/-- What is wrong with the files of a flag, each looked at alone: the token and then the bundle. -/
def faults (files : File.System) (auth : Auth) : List Error :=
  failures (auth.credentials files) ++ auth.bundleFaults files

theorem reports_secured (files : File.System) (auth : Auth) :
    Reports (auth.bundleFaults files) (auth.secured files) := by
  rw [bundleFaults, secured]
  cases auth.caFile with
  | none => exact .value _
  | some path =>
    refine (reports_failures (loadCa files path)).last id (List.map_id _) ?_ ?_
    · intro error h
      simp only [h, id]
    · intro bundle h
      simp only [h]
      exact ⟨_, rfl⟩

/-- **Making options of a flag tells the first fault of its files.** -/
theorem reports_configure (files : File.System) (auth : Auth) :
    Reports (auth.faults files) (auth.configure files) := by
  rw [faults, configure]
  refine (reports_failures (auth.credentials files)).step id (List.map_id _) ?_ ?_
  · intro error h
    simp only [h, id]
  · intro token h
    refine (reports_secured files auth).last id (List.map_id _) ?_ ?_
    · intro error hbundle
      simp only [h, hbundle, id]
    · intro options hbundle
      simp only [h, hbundle]
      exact ⟨_, rfl⟩

end Auth

/-! ## 3. The files of a target -/

namespace Command
namespace Target

/-- What is wrong with the flag of a target, if it has one. -/
def authFaults (files : File.System) (target : Target) : List TargetError :=
  match target.auth with
  | none => []
  | some auth => (auth.faults files).map (.auth auth)

/-- What is wrong with the files of the client, each looked at alone, if both are named. -/
def identityFaults (files : File.System) (target : Target) : List TargetError :=
  match target.clientCert, target.clientKey with
  | some cert, some key =>
    (failures (files.read cert)).map (.clientCert cert) ++
      (failures (files.read key)).map (.clientKey key)
  | _, _ => []

/-- What is wrong with the files of a target, each looked at alone. -/
def faults (files : File.System) (target : Target) : List TargetError :=
  target.authFaults files ++ target.identityFaults files

theorem reports_baseOptions (files : File.System) (target : Target) :
    Reports (target.authFaults files) (target.baseOptions files) := by
  rw [authFaults, baseOptions]
  cases target.auth with
  | none => exact .value _
  | some auth =>
    refine (auth.reports_configure files).last (TargetError.auth auth) rfl ?_ ?_
    · intro cause h
      simp only [h]
    · intro options h
      simp only [h]
      exact ⟨_, rfl⟩

theorem reports_identity (files : File.System) (target : Target) :
    Reports (target.identityFaults files) (target.identity files) := by
  rw [identityFaults, identity]
  rcases target.clientCert with _ | cert
  · exact .value _
  rcases target.clientKey with _ | key
  · exact .value _
  refine (reports_failures (files.read cert)).step (TargetError.clientCert cert) rfl ?_ ?_
  · intro cause h
    simp only [h]
  · intro certificate h
    refine (reports_failures (files.read key)).last (TargetError.clientKey key) rfl ?_ ?_
    · intro cause hkey
      simp only [h, hkey]
    · intro content hkey
      simp only [h, hkey]
      exact ⟨_, rfl⟩

/-- **Making the options of a target tells the first fault of its files.** -/
theorem reports_dialOptions (files : File.System) (target : Target) :
    Reports (target.faults files) (target.dialOptions files) := by
  rw [faults, dialOptions]
  refine (reports_baseOptions files target).step id (List.map_id _) ?_ ?_
  · intro error h
    simp only [h, id]
  · intro base h
    refine (reports_identity files target).last id (List.map_id _) ?_ ?_
    · intro error hidentity
      simp only [h, hidentity, id]
    · intro identity hidentity
      simp only [h, hidentity]
      exact ⟨_, rfl⟩

/-! ## 4. Options without a fault -/

variable {files : File.System} {target : Target} {options : Dial.Options}

theorem requestTimeout_of_dialOptions (h : target.dialOptions files = .ok options) :
    options.requestTimeout = some target.timeout := by
  obtain ⟨base, identity, -, -, rfl⟩ := steps_of_dialOptions h
  rfl

/-- **The options of a flag are kept.**  The client certificate comes to its roots, and the limit
of the target to its token. -/
theorem options_of_auth {auth : Auth} (hauth : target.auth = some auth)
    (h : target.dialOptions files = .ok options) :
    ∃ token roots identity, auth.credentials files = .ok token ∧ auth.Trusts files roots ∧
      target.identity files = .ok identity ∧
      options = ⟨some ⟨roots, identity⟩, some token, some target.timeout, some target.timeout⟩ := by
  obtain ⟨base, identity, hbase, hidentity, rfl⟩ := steps_of_dialOptions h
  have hconfigure : auth.configure files = .ok base := by
    rw [baseOptions, hauth] at hbase
    simp only at hbase
    split at hbase
    · rename_i options hoptions
      rw [hoptions, Except.ok.inj hbase]
    · exact absurd hbase (by simp)
  obtain ⟨token, roots, htoken, hroots⟩ := Auth.trusts_of_configure hconfigure
  have hsame := hconfigure.symm.trans (Auth.configure_of_trusts htoken hroots)
  obtain rfl := Except.ok.inj hsame
  refine ⟨token, roots, identity, htoken, hroots, hidentity, ?_⟩
  cases identity <;> rfl

/-- Without a flag there is no token. -/
theorem token_of_no_auth (hauth : target.auth = none)
    (h : target.dialOptions files = .ok options) : options.token = none := by
  obtain ⟨base, identity, hbase, -, rfl⟩ := steps_of_dialOptions h
  rw [baseOptions, hauth] at hbase
  obtain rfl := Except.ok.inj hbase
  cases identity <;> cases target.plaintext <;> rfl

/-- With a flag it makes no difference whether plaintext is asked for. -/
theorem dialOptions_of_auth {auth : Auth} (hauth : target.auth = some auth) (plaintext : Bool) :
    ({ target with plaintext := plaintext } : Target).dialOptions files =
      target.dialOptions files := by
  have hbase : ({ target with plaintext := plaintext } : Target).baseOptions files =
      target.baseOptions files := by
    simp only [baseOptions, hauth]
  rw [dialOptions, hbase]
  rfl

/-- **The first fault is told, and without one the options keep all that was asked for.**  The
files are the token and the bundle of the flag, and then, if both are named, the client certificate
and its key.  The message says what was being read, and the messages of the cause follow.  Without
a fault, a token is attached to every call when there is a flag, the one that loading it gives, and
none is attached when there is not; the roots of the flag stay with the client certificate; the
limit holds for connecting and for every call.  And whether plaintext is asked for makes no
difference to a flag. -/
theorem first_fault_is_told (files : File.System) (target : Target) :
    (∀ error, target.dialOptions files = .error error ↔
      (target.faults files).head? = some error) ∧
    ((∃ options, target.dialOptions files = .ok options) ↔ target.faults files = []) ∧
    ((∀ auth cause, (TargetError.auth auth cause).chain =
        ("configuring auth " ++ auth.text) :: cause.chain .told) ∧
      (∀ path cause, (TargetError.clientCert path cause).chain =
        ["reading client cert " ++ path.display, cause.message]) ∧
      (∀ path cause, (TargetError.clientKey path cause).chain =
        ["reading client key " ++ path.display, cause.message])) ∧
    (∀ options, target.dialOptions files = .ok options →
      options.interceptor.hasToken = target.auth.isSome ∧
      (∀ auth, target.auth = some auth →
        (∃ token, auth.credentials files = .ok token ∧
          options.interceptor.Attaches (some token)) ∧
        ∃ roots identity, auth.Trusts files roots ∧ target.identity files = .ok identity ∧
          options.tls = some ⟨roots, identity⟩) ∧
      (target.auth = none → options.interceptor.Attaches none) ∧
      options.connectTimeout = some (Duration.ofSeconds target.timeoutSeconds) ∧
      options.requestTimeout = some (Duration.ofSeconds target.timeoutSeconds)) ∧
    (target.auth.isSome = true → ∀ plaintext,
      ({ target with plaintext := plaintext } : Target).dialOptions files =
        target.dialOptions files) := by
  have hreports := reports_dialOptions files target
  refine ⟨?_, hreports.exists_ok_iff, ⟨?_, ?_, ?_⟩, ?_, ?_⟩
  · intro error
    exact hreports.eq_error_iff
  · intro auth cause
    rfl
  · intro path cause
    rfl
  · intro path cause
    rfl
  · intro options h
    have hattaches := options.interceptor_attaches
    refine ⟨?_, ?_, ?_, connectTimeout_of_dialOptions h, requestTimeout_of_dialOptions h⟩
    · rw [Interceptor.hasToken, Dial.Options.interceptor]
      cases hauth : target.auth with
      | none => rw [token_of_no_auth hauth h]; rfl
      | some auth =>
        obtain ⟨token, roots, identity, -, -, -, rfl⟩ := options_of_auth hauth h
        rfl
    · intro auth hauth
      obtain ⟨token, roots, identity, htoken, hroots, hidentity, rfl⟩ := options_of_auth hauth h
      exact ⟨⟨token, htoken, hattaches⟩, roots, identity, hroots, hidentity, rfl⟩
    · intro hauth
      rw [token_of_no_auth hauth h] at hattaches
      exact hattaches
  · intro hauth plaintext
    obtain ⟨auth, hauth⟩ := Option.isSome_iff_exists.mp hauth
    exact dialOptions_of_auth hauth plaintext

/-- Where a token is blank and a client certificate is missing too, the token is told. -/
example :
    let target : Target := ⟨"e:1", some ⟨.ofString "t", none⟩, some (.ofString "c"),
      some (.ofString "k"), true, 5⟩
    let files : File.System :=
      ⟨fun path => if path = .ofString "t" then .ok [0x20] else .error .notFound⟩
    target.dialOptions files = .error (.auth ⟨.ofString "t", none⟩ .emptyToken) ∧
      (target.faults files).length = 3 :=
  ⟨rfl, rfl⟩

end Target
end Command
end RegionalDial
