/-
# Hosts, with TLS and without

A target is in most cases a host and perhaps a port.  The host is four numbers, an IPv6 address in
brackets, or a domain name.  Two grammars meet such a target: that of an authority, which every
target has to pass, and with TLS that of the names a certificate can be checked against.

* **The authority** takes every host with every port (`HostPort.isAuthority_text`).  In brackets
  colons are counted, and an IPv6 address has eight at most.
* **The name** is asked for as the host stands in the authority, with its brackets, and no bracket
  may stand in a name (`ServerName.isHostChar_of_isValid`).

So without TLS every such target means an address, as long as it is not too long to be read, and
with TLS every one that has no brackets (`Dial.Options.tls_takes_every_host_without_brackets`).
-/
import RegionalDial.Proofs.Targets

namespace RegionalDial

open Text

/-! ## 1. Hosts as they are written -/

/-- Four numbers as they are written. -/
def dotted (a b c d : Fin 256) : List Char :=
  joinWith '.' [Nat.toDigits 10 a, Nat.toDigits 10 b, Nat.toDigits 10 c, Nat.toDigits 10 d]

/-- Is this a digit of a group? -/
def isHexDigit (c : Char) : Bool := "0123456789abcdefABCDEF".toList.contains c

/-- One to four hexadecimal digits. -/
structure IsGroup (cs : List Char) : Prop where
  ne_nil : cs ≠ []
  length : cs.length ≤ 4
  digits : ∀ c ∈ cs, isHexDigit c = true

/-- The last parts of an IPv6 address, which stand for this many groups.  Four numbers at the end
stand for two. -/
inductive StandsFor : Nat → List (List Char) → Prop
  | nil : StandsFor 0 []
  | dotted (a b c d : Fin 256) : StandsFor 2 [dotted a b c d]
  | group {n : Nat} {part : List Char} {parts : List (List Char)} (h : IsGroup part)
      (hparts : StandsFor n parts) : StandsFor (n + 1) (part :: parts)

/-- An IPv6 address: eight groups, or fewer with two colons for the groups left out. -/
inductive IsIpv6 : List Char → Prop
  | full {parts : List (List Char)} (h : StandsFor 8 parts) : IsIpv6 (joinWith ':' parts)
  | short {before after : List (List Char)} {n : Nat} (hbefore : ∀ part ∈ before, IsGroup part)
      (hafter : StandsFor n after) (h : before.length + n ≤ 7) :
      IsIpv6 (joinWith ':' before ++ ':' :: ':' :: joinWith ':' after)

/-- A letter, a digit, a hyphen or an underscore. -/
def IsLabelChar (c : Char) : Prop :=
  ('A' ≤ c ∧ c ≤ 'Z') ∨ ('a' ≤ c ∧ c ≤ 'z') ∨ ('0' ≤ c ∧ c ≤ '9') ∨ c = '-' ∨ c = '_'

/-- A label of a domain name.  No hyphen stands at an end of it. -/
structure IsLabel (label : List Char) : Prop where
  ne_nil : label ≠ []
  length : label.length ≤ 63
  chars : ∀ c ∈ label, IsLabelChar c
  head : label.head? ≠ some '-'
  last : label.getLast? ≠ some '-'

/-- The labels of a domain name: at least one, the last not a number, and not too long with dots
between them. -/
structure AreLabels (labels : List (List Char)) : Prop where
  isLabel : ∀ label ∈ labels, IsLabel label
  last : ∃ label ∈ labels.getLast?, ∃ c ∈ label, c.isDigit = false
  length : (joinWith '.' labels).length ≤ 253

/-- A host of one of the three kinds. -/
inductive WrittenHost where
  | ipv4 (a b c d : Fin 256)
  /-- An IPv6 address, in brackets. -/
  | ipv6 (address : List Char) (h : IsIpv6 address)
  /-- A domain name, perhaps with a dot at its end. -/
  | domain (labels : List (List Char)) (rooted : Bool) (h : AreLabels labels)

namespace WrittenHost

def text : WrittenHost → List Char
  | ipv4 a b c d => dotted a b c d
  | ipv6 address _ => '[' :: (address ++ [']'])
  | domain labels rooted _ => joinWith '.' labels ++ if rooted then ['.'] else []

/-- Is this an IPv6 address? -/
def isBracketed : WrittenHost → Bool
  | ipv6 _ _ => true
  | _ => false

end WrittenHost

/-- A host, and perhaps a port: a number in decimal digits. -/
structure HostPort where
  host : WrittenHost
  port : Option (List Char)
  port_ne_nil : ∀ digits ∈ port, digits ≠ []
  port_digits : ∀ digits ∈ port, ∀ c ∈ digits, c.isDigit = true

namespace HostPort

/-- The port after its colon. -/
def portText (target : HostPort) : List Char := target.port.elim [] (':' :: ·)

/-- The target as it is written. -/
def text (target : HostPort) : String := String.ofList (target.host.text ++ target.portText)

end HostPort

/-! ## 2. Characters and labels -/

theorem isLabelChar_iff {c : Char} : ServerName.isLabelChar c = true ↔ IsLabelChar c := by
  have hupper : c.isUpper = true ↔ 'A' ≤ c ∧ c ≤ 'Z' := decide_eq_true_iff
  have hlower : c.isLower = true ↔ 'a' ≤ c ∧ c ≤ 'z' :=
    Bool.and_eq_true_iff.trans (and_congr decide_eq_true_iff decide_eq_true_iff)
  have hdigit : c.isDigit = true ↔ '0' ≤ c ∧ c ≤ '9' :=
    Bool.and_eq_true_iff.trans (and_congr decide_eq_true_iff decide_eq_true_iff)
  change (((c.isUpper || c.isLower) || c.isDigit) || decide (c = '-') || decide (c = '_')) = true ↔
    IsLabelChar c
  simp only [IsLabelChar, Bool.or_eq_true, decide_eq_true_eq, hupper, hlower, hdigit, or_assoc]

/-- **The checker takes the labels, and nothing else for one.** -/
theorem isLabel_iff {label : List Char} : ServerName.isLabel label = true ↔ IsLabel label := by
  simp only [ServerName.isLabel, Bool.and_eq_true, Bool.not_eq_true', List.isEmpty_eq_false_iff,
    decide_eq_true_eq, List.all_eq_true, isLabelChar_iff]
  constructor
  · rintro ⟨⟨⟨⟨hne, hlength⟩, hchars⟩, hhead⟩, hlast⟩
    exact ⟨hne, hlength, hchars, hhead, hlast⟩
  · rintro ⟨hne, hlength, hchars, hhead, hlast⟩
    exact ⟨⟨⟨⟨hne, hlength⟩, hchars⟩, hhead⟩, hlast⟩

/-- The characters of labels and of dotted numbers. -/
def isHostChar (c : Char) : Bool := ServerName.isLabelChar c || c = '.'

theorem isHostChar_of_isDigit {c : Char} (h : c.isDigit = true) : isHostChar c = true := by
  have halnum : c.isAlphanum = true := by
    change (c.isAlpha || c.isDigit) = true
    rw [h, Bool.or_true]
  simp only [isHostChar, ServerName.isLabelChar, halnum, Bool.true_or]

theorem isHostChar_of_isHexDigit {c : Char} (h : isHexDigit c = true) : isHostChar c = true :=
  List.all_eq_true.mp (by decide) c (List.contains_iff_mem.mp h)

/-- No character of a host means anything in an address but itself. -/
theorem ne_of_isHostChar {c : Char} (h : isHostChar c = true) :
    c ≠ ':' ∧ c ≠ '[' ∧ c ≠ ']' ∧ c ≠ '@' ∧ c ≠ '/' := by
  refine ⟨?_, ?_, ?_, ?_, ?_⟩ <;> rintro rfl <;> exact absurd h (by decide)

theorem isAuthorityChar_of_isHostChar {c : Char} (h : isHostChar c = true) :
    Uri.isAuthorityChar c = true := by
  simp only [isHostChar, ServerName.isLabelChar, Bool.or_eq_true, decide_eq_true_eq] at h
  rcases h with ((h | rfl) | rfl) | rfl
  · simp only [Uri.isAuthorityChar, Uri.isLetterOrDigit, h, Bool.true_or]
  · decide
  · decide
  · decide

/-- A number up to 255 in decimal digits. -/
theorem isOctet_toDigits (n : Fin 256) :
    ServerName.isOctet (Nat.toDigits 10 n) = true ∧ (Nat.toDigits 10 n).length ≤ 3 := by
  revert n
  decide +kernel

theorem isDigit_of_isOctet {cs : List Char} (h : ServerName.isOctet cs = true) :
    ∀ c ∈ cs, c.isDigit = true := by
  simp only [ServerName.isOctet, Bool.and_eq_true] at h
  exact List.all_eq_true.mp h.1.1.1.2

theorem isHostChar_dotted (a b c d : Fin 256) : ∀ x ∈ dotted a b c d, isHostChar x = true := by
  have hoctet (n : Fin 256) : ∀ x ∈ Nat.toDigits 10 n, isHostChar x = true := fun x hx =>
    isHostChar_of_isDigit (isDigit_of_isOctet (isOctet_toDigits n).1 x hx)
  refine forall_mem_joinWith (by decide) fun part hpart => ?_
  simp only [List.mem_cons, List.not_mem_nil, or_false] at hpart
  rcases hpart with rfl | rfl | rfl | rfl
  · exact hoctet a
  · exact hoctet b
  · exact hoctet c
  · exact hoctet d

theorem IsLabel.isHostChar {label : List Char} (h : IsLabel label) :
    ∀ c ∈ label, isHostChar c = true := by
  intro c hc
  rw [RegionalDial.isHostChar, isLabelChar_iff.mpr (h.chars c hc), Bool.true_or]

theorem AreLabels.isHostChar {labels : List (List Char)} (h : AreLabels labels) :
    ∀ c ∈ joinWith '.' labels, isHostChar c = true :=
  forall_mem_joinWith (by decide) fun label hlabel => (h.isLabel label hlabel).isHostChar

theorem AreLabels.ne_nil {labels : List (List Char)} (h : AreLabels labels) : labels ≠ [] := by
  rintro rfl
  obtain ⟨label, hlast, -⟩ := h.last
  exact absurd hlast (by simp)

theorem AreLabels.joinWith_ne_nil {labels : List (List Char)} (h : AreLabels labels) :
    joinWith '.' labels ≠ [] := by
  cases labels with
  | nil => exact absurd rfl h.ne_nil
  | cons label labels =>
    have hlabel := (h.isLabel label List.mem_cons_self).ne_nil
    cases labels with
    | nil => exact hlabel
    | cons next more => exact List.append_ne_nil_of_left_ne_nil hlabel _

/-! ## 3. Colons -/

theorem StandsFor.isHostChar {n : Nat} {parts : List (List Char)} (h : StandsFor n parts) :
    parts.length ≤ n ∧ ∀ part ∈ parts, ∀ c ∈ part, isHostChar c = true := by
  induction h with
  | nil => simp
  | dotted a b c d => exact ⟨by simp, fun part hpart =>
      List.mem_singleton.mp hpart ▸ isHostChar_dotted a b c d⟩
  | group hpart _ ih =>
    refine ⟨by simpa using ih.1, fun part hmem => ?_⟩
    rcases List.mem_cons.mp hmem with rfl | hmem
    · exact fun c hc => isHostChar_of_isHexDigit (hpart.digits c hc)
    · exact ih.2 part hmem

/-- Between parts there is one colon fewer than there are parts. -/
theorem count_colon_joinWith {parts : List (List Char)}
    (h : ∀ part ∈ parts, ∀ c ∈ part, isHostChar c = true) :
    (joinWith ':' parts).count ':' = parts.length - 1 := by
  induction parts with
  | nil => rfl
  | cons part parts ih =>
    have hpart : part.count ':' = 0 := List.count_eq_zero.mpr fun hmem =>
      (ne_of_isHostChar (h part List.mem_cons_self _ hmem)).1 rfl
    cases parts with
    | nil => simpa [joinWith] using hpart
    | cons next more =>
      have hmore := ih fun part hmem => h part (List.mem_cons_of_mem _ hmem)
      rw [joinWith, List.count_append, List.count_cons_self, hpart, hmore]
      · simp only [List.length_cons]
        omega
      · simp

/-- An address between colons: the characters of hosts, and colons. -/
theorem isHostChar_or_colon_joinWith {parts : List (List Char)}
    (h : ∀ part ∈ parts, ∀ c ∈ part, isHostChar c = true) :
    ∀ c ∈ joinWith ':' parts, isHostChar c = true ∨ c = ':' := by
  intro c hc
  rcases mem_joinWith hc with rfl | ⟨part, hpart, hmem⟩
  · exact .inr rfl
  · exact .inl (h part hpart c hmem)

/-- **An IPv6 address is characters of hosts and at most eight colons.** -/
theorem IsIpv6.chars_and_colons {cs : List Char} (h : IsIpv6 cs) :
    (∀ c ∈ cs, isHostChar c = true ∨ c = ':') ∧ cs.count ':' ≤ Uri.AuthorityState.mostColons := by
  cases h with
  | full hparts =>
    obtain ⟨hlength, hchars⟩ := hparts.isHostChar
    refine ⟨isHostChar_or_colon_joinWith hchars, ?_⟩
    rw [count_colon_joinWith hchars, Uri.AuthorityState.mostColons]
    omega
  | @short before after n hbefore hafter hsum =>
    obtain ⟨hlength, hchars⟩ := hafter.isHostChar
    have hgroups : ∀ part ∈ before, ∀ c ∈ part, isHostChar c = true := fun part hpart c hc =>
      isHostChar_of_isHexDigit ((hbefore part hpart).digits c hc)
    constructor
    · intro c hc
      rcases List.mem_append.mp hc with hc | hc
      · exact isHostChar_or_colon_joinWith hgroups c hc
      · simp only [List.mem_cons] at hc
        rcases hc with rfl | rfl | hc
        · exact .inr rfl
        · exact .inr rfl
        · exact isHostChar_or_colon_joinWith hchars c hc
    · -- Two colons stand for at least one group, so with seven groups there are eight colons.
      rw [List.count_append, List.count_cons_self, List.count_cons_self,
        count_colon_joinWith hgroups, count_colon_joinWith hchars, Uri.AuthorityState.mostColons]
      omega

/-! ## 4. The authority -/

namespace Uri.AuthorityState

variable {state : AuthorityState}

theorem step_of_isHostChar (hstate : state.afterAt = false) {c : Char} (h : isHostChar c = true) :
    state.step c = some state := by
  obtain ⟨hcolon, hopen, hclose, hat, -⟩ := ne_of_isHostChar h
  have hpercent : c ≠ '%' := by rintro rfl; exact absurd h (by decide)
  rw [step]
  simp only [if_neg hcolon, if_neg hopen, if_neg hclose, if_neg hat, if_neg hpercent,
    if_pos (isAuthorityChar_of_isHostChar h), decide_eq_false hat, ← hstate]

theorem step_colon (hstate : state.afterAt = false) (h : state.colons < mostColons) :
    state.step ':' = some { state with colons := state.colons + 1 } := by
  rw [step, hstate]
  simp only [if_true, if_neg (Nat.not_le_of_lt h)]
  rfl

/-- **Characters of hosts and colons are read over, and the colons are counted.** -/
theorem foldlM_step {cs : List Char} (h : ∀ c ∈ cs, isHostChar c = true ∨ c = ':')
    (hstate : state.afterAt = false) (hcolons : state.colons + cs.count ':' ≤ mostColons) :
    cs.foldlM step state = some { state with colons := state.colons + cs.count ':' } := by
  induction cs generalizing state with
  | nil => rfl
  | cons c cs ih =>
    have hrest : ∀ c ∈ cs, isHostChar c = true ∨ c = ':' := fun c hc =>
      h c (List.mem_cons_of_mem _ hc)
    rw [List.foldlM_cons]
    rcases h c List.mem_cons_self with hc | rfl
    · rw [List.count_cons_of_ne (ne_of_isHostChar hc).1] at hcolons ⊢
      rw [step_of_isHostChar hstate hc]
      exact ih hrest hstate hcolons
    · rw [List.count_cons_self] at hcolons ⊢
      rw [step_colon hstate (by omega)]
      have hcounted : state.colons + 1 + cs.count ':' ≤ mostColons := by omega
      rw [Nat.add_comm (cs.count ':'), ← Nat.add_assoc]
      exact @ih { state with colons := state.colons + 1 } hrest hstate hcounted

end Uri.AuthorityState

/-- A host in brackets is the address up to the closing one. -/
theorem Origin.host_of_brackets {origin : Origin} {address port : List Char}
    (haddress : origin.address.toList = '[' :: (address ++ ']' :: port)) (h : ']' ∉ address) :
    origin.host = '[' :: (address ++ [']']) := by
  have hopen : ∀ c ∈ '[' :: address, decide (c ≠ ']') = true := by
    intro c hc
    refine decide_eq_true ?_
    rcases List.mem_cons.mp hc with rfl | hc
    · decide
    · exact fun heq => h (heq ▸ hc)
  have htake : ('[' :: (address ++ ']' :: port)).takeWhile (· ≠ ']') = '[' :: address := by
    rw [← List.cons_append, List.takeWhile_append_of_pos hopen]
    simp
  rw [Origin.host, haddress]
  exact congrArg (· ++ [']']) htake

/-- Any other host is the address up to the colon of its port. -/
theorem Origin.host_of_chars {origin : Origin} {host port : List Char}
    (haddress : origin.address.toList = host ++ port) (hne : host ≠ [])
    (hchars : ∀ c ∈ host, isHostChar c = true) (hport : port = [] ∨ port.head? = some ':') :
    origin.host = host := by
  have htake : (host ++ port).takeWhile (· ≠ ':') = host := by
    rw [List.takeWhile_append_of_pos fun c hc => decide_eq_true (ne_of_isHostChar (hchars c hc)).1]
    rcases hport with rfl | hport
    · simp
    · obtain ⟨digits, rfl⟩ := List.head?_eq_some_iff.mp hport
      simp
  rw [Origin.host, haddress]
  split
  · rename_i rest heq
    obtain ⟨c, cs, rfl⟩ := List.exists_cons_of_ne_nil hne
    obtain rfl := (List.cons.inj heq).1
    exact absurd (hchars _ List.mem_cons_self) (by decide)
  · exact htake

namespace WrittenHost

variable (host : WrittenHost)

/-- Without brackets a host is characters of hosts. -/
theorem isHostChar_text {host : WrittenHost} (h : host.isBracketed = false) :
    ∀ c ∈ host.text, isHostChar c = true := by
  cases host with
  | ipv6 address haddress => exact absurd h (by simp [isBracketed])
  | ipv4 a b c d => exact isHostChar_dotted a b c d
  | domain labels rooted hlabels =>
    intro c hc
    rcases List.mem_append.mp hc with hc | hc
    · exact hlabels.isHostChar c hc
    · cases rooted with
      | false => exact absurd hc (by simp)
      | true =>
        obtain rfl := List.mem_singleton.mp hc
        decide

/-- With brackets it is an IPv6 address between them. -/
theorem exists_address {host : WrittenHost} (h : host.isBracketed = true) :
    ∃ address, IsIpv6 address ∧ host.text = '[' :: (address ++ [']']) := by
  cases host with
  | ipv4 a b c d => exact absurd h (by simp [isBracketed])
  | domain labels rooted hlabels => exact absurd h (by simp [isBracketed])
  | ipv6 address haddress => exact ⟨address, haddress, rfl⟩

theorem text_ne_nil : host.text ≠ [] := by
  cases host with
  | ipv4 a b c d => simp [text, dotted, joinWith]
  | ipv6 address haddress => simp [text]
  | domain labels rooted hlabels =>
    rw [text]
    exact List.append_ne_nil_of_left_ne_nil hlabels.joinWith_ne_nil _

/-- **A host is read to its end**, and no colon of it counts any more. -/
theorem foldlM_text : host.text.foldlM Uri.AuthorityState.step Uri.AuthorityState.start =
    some ⟨0, host.isBracketed, host.isBracketed, false, false⟩ := by
  cases hhost : host.isBracketed with
  | false =>
    have hchars := isHostChar_text hhost
    have hcount : host.text.count ':' = 0 := List.count_eq_zero.mpr fun hmem =>
      (ne_of_isHostChar (hchars _ hmem)).1 rfl
    have hmost : 0 + host.text.count ':' ≤ Uri.AuthorityState.mostColons := by
      rw [hcount]
      decide
    rw [Uri.AuthorityState.foldlM_step (fun c hc => .inl (hchars c hc)) rfl hmost, hcount]
    rfl
  | true =>
    obtain ⟨address, haddress, htext⟩ := exists_address hhost
    obtain ⟨hchars, hcolons⟩ := haddress.chars_and_colons
    -- What stands between the brackets is read in the state after the first of them.
    have hinner := @Uri.AuthorityState.foldlM_step ⟨0, true, false, false, false⟩ _ hchars rfl
      (by simpa using hcolons)
    rw [htext, List.foldlM_cons]
    change (address ++ [']']).foldlM Uri.AuthorityState.step ⟨0, true, false, false, false⟩ = _
    rw [List.foldlM_append, hinner]
    rfl

end WrittenHost

namespace HostPort

variable (target : HostPort)

theorem portText_chars : (∀ c ∈ target.portText, isHostChar c = true ∨ c = ':') ∧
    target.portText.count ':' ≤ 1 := by
  rw [portText]
  cases hport : target.port with
  | none => simp
  | some digits =>
    have hdigits : ∀ c ∈ digits, isHostChar c = true := fun c hc =>
      isHostChar_of_isDigit (target.port_digits digits hport c hc)
    have hcount : digits.count ':' = 0 := List.count_eq_zero.mpr fun hmem =>
      (ne_of_isHostChar (hdigits _ hmem)).1 rfl
    refine ⟨fun c hc => ?_, ?_⟩
    · rcases List.mem_cons.mp hc with rfl | hc
      · exact .inr rfl
      · exact .inl (hdigits c hc)
    · rw [Option.elim_some, List.count_cons_self, hcount]

/-- **Every host with every port is an authority.** -/
theorem isAuthority_text : Uri.isAuthority (target.host.text ++ target.portText) = true := by
  obtain ⟨hchars, hcolon⟩ := target.portText_chars
  have hmost : 0 + target.portText.count ':' ≤ Uri.AuthorityState.mostColons := by
    rw [Uri.AuthorityState.mostColons]
    omega
  have hport := @Uri.AuthorityState.foldlM_step
    ⟨0, target.host.isBracketed, target.host.isBracketed, false, false⟩ _ hchars rfl hmost
  have hread := (List.foldlM_append ..).trans
    ((congrArg (· >>= _) target.host.foldlM_text).trans hport)
  have hne : target.host.text ++ target.portText ≠ [] :=
    List.append_ne_nil_of_left_ne_nil target.host.text_ne_nil _
  rw [Uri.isAuthority, hread]
  simp [Uri.AuthorityState.accepts, hcolon, target.host.text_ne_nil]

/-- Hosts and ports are characters of hosts, colons and brackets. -/
theorem chars_text : ∀ c ∈ target.host.text ++ target.portText,
    isHostChar c = true ∨ c ∈ [':', '[', ']'] := by
  intro c hc
  rcases List.mem_append.mp hc with hc | hc
  · cases hbracketed : target.host.isBracketed with
    | false => exact .inl (WrittenHost.isHostChar_text hbracketed c hc)
    | true =>
      obtain ⟨address, haddress, htext⟩ := WrittenHost.exists_address hbracketed
      rw [htext] at hc
      simp only [List.mem_cons, List.mem_append, List.not_mem_nil, or_false] at hc
      rcases hc with rfl | hc | rfl
      · exact .inr (by simp)
      · rcases haddress.chars_and_colons.1 c hc with hc | rfl
        · exact .inl hc
        · exact .inr (by simp)
      · exact .inr (by simp)
  · rcases target.portText_chars.1 c hc with hc | rfl
    · exact .inl hc
    · exact .inr (by simp)

/-- None of them ends an authority or ends the name of a user. -/
theorem ne_of_mem_text {c : Char} (h : c ∈ target.host.text ++ target.portText) :
    c ≠ '@' ∧ c ≠ '/' ∧ Uri.endsAuthority c = false := by
  rcases target.chars_text c h with hc | hc
  · refine ⟨?_, ?_, ?_⟩
    · rintro rfl; exact absurd hc (by decide)
    · rintro rfl; exact absurd hc (by decide)
    · simp only [Uri.endsAuthority, Bool.or_eq_false_iff, decide_eq_false_iff_not]
      refine ⟨⟨?_, ?_⟩, ?_⟩ <;> rintro rfl <;> exact absurd hc (by decide)
  · simp only [List.mem_cons, List.not_mem_nil, or_false] at hc
    rcases hc with rfl | rfl | rfl <;> decide

theorem head?_portText : target.portText = [] ∨ target.portText.head? = some ':' := by
  rw [portText]
  cases target.port with
  | none => exact .inl rfl
  | some digits => exact .inr rfl

/-- **The host of the address is the host of the target.** -/
theorem host_origin (scheme : String) :
    (⟨scheme, target.text⟩ : Origin).host = target.host.text := by
  have haddress : (⟨scheme, target.text⟩ : Origin).address.toList =
      target.host.text ++ target.portText := by
    have hat : (target.host.text ++ target.portText).reverse.takeWhile (· ≠ '@') =
        (target.host.text ++ target.portText).reverse :=
      List.takeWhile_eq_self_iff.mpr fun c hc =>
        decide_eq_true (target.ne_of_mem_text (List.mem_reverse.mp hc)).1
    rw [Origin.address, String.toList_ofList, text, String.toList_ofList, hat, List.reverse_reverse]
  cases hbracketed : target.host.isBracketed with
  | false =>
    exact Origin.host_of_chars haddress target.host.text_ne_nil
      (WrittenHost.isHostChar_text hbracketed) target.head?_portText
  | true =>
    obtain ⟨address, hipv6, htext⟩ := WrittenHost.exists_address hbracketed
    have hclose : ']' ∉ address := by
      intro hmem
      rcases hipv6.chars_and_colons.1 _ hmem with hc | hc
      · exact (ne_of_isHostChar hc).2.2.1 rfl
      · exact absurd hc (by decide)
    have hwhole : target.host.text ++ target.portText =
        '[' :: (address ++ ']' :: target.portText) := by
      rw [htext, List.cons_append, List.append_assoc]
      rfl
    rw [htext]
    exact Origin.host_of_brackets (haddress.trans hwhole) hclose

end HostPort

/-! ## 5. Names for a certificate -/

namespace ServerName

/-- Every part but an empty one at the end is a label. -/
theorem mem_labels {cs part : List Char} (h : part ∈ splitOn '.' cs) (hne : part ≠ []) :
    part ∈ labels cs := by
  rw [labels]
  split
  · rename_i hlast
    obtain ⟨parts, hparts⟩ := List.getLast?_eq_some_iff.mp hlast
    rw [hparts] at h ⊢
    rw [List.dropLast_concat]
    exact (List.mem_append.mp h).resolve_right fun hmem => hne (List.mem_singleton.mp hmem)
  · exact h

/-- No other characters than those of hosts stand in a name. -/
theorem isHostChar_of_isValid {cs : List Char} (h : isValid cs = true) :
    ∀ c ∈ cs, isHostChar c = true := by
  rw [← joinWith_splitOn '.' cs]
  refine forall_mem_joinWith (by decide) fun part hpart c hc => ?_
  rcases Bool.or_eq_true_iff.mp h with h | h
  · simp only [isIpv4, Bool.and_eq_true] at h
    exact isHostChar_of_isDigit (isDigit_of_isOctet (List.all_eq_true.mp h.2 part hpart) c hc)
  · simp only [isDomain, Bool.and_eq_true] at h
    have hlabel : isLabel part = true :=
      List.all_eq_true.mp h.1.2 part (mem_labels hpart (List.ne_nil_of_mem hc))
    exact (isLabel_iff.mp hlabel).isHostChar c hc

end ServerName

/-- A dot at the end is an empty part. -/
theorem joinWith_rooted {labels : List (List Char)} (h : labels ≠ []) :
    joinWith '.' labels ++ ['.'] = joinWith '.' (labels ++ [[]]) := by
  induction labels with
  | nil => exact absurd rfl h
  | cons label labels ih =>
    cases labels with
    | nil => simp [joinWith]
    | cons next more => simpa [joinWith] using ih (by simp)

section Labels

variable {labels : List (List Char)} (h : AreLabels labels) (rooted : Bool)
include h

/-- The parts of a name are its labels, and an empty part for the dot at its end. -/
theorem AreLabels.splitOn_text :
    splitOn '.' (WrittenHost.domain labels rooted h).text =
      labels ++ if rooted then [[]] else [] := by
  have hdot : ∀ label ∈ labels, '.' ∉ label := by
    intro label hlabel hmem
    have hchar := isLabelChar_iff.mpr ((h.isLabel label hlabel).chars _ hmem)
    exact absurd hchar (by decide)
  rw [WrittenHost.text]
  cases rooted with
  | false =>
    simp only [Bool.false_eq_true, if_false, List.append_nil]
    exact splitOn_joinWith h.ne_nil hdot
  | true =>
    simp only [if_true]
    rw [joinWith_rooted h.ne_nil]
    refine splitOn_joinWith (by simp) fun label hlabel => ?_
    rcases List.mem_append.mp hlabel with hlabel | hlabel
    · exact hdot label hlabel
    · rw [List.mem_singleton.mp hlabel]
      simp

theorem AreLabels.labels_text :
    ServerName.labels (WrittenHost.domain labels rooted h).text = labels := by
  rw [ServerName.labels, h.splitOn_text]
  cases rooted with
  | true => simp
  | false =>
    simp only [Bool.false_eq_true, if_false, List.append_nil]
    rw [if_neg]
    intro hlast
    exact (h.isLabel [] (List.mem_of_getLast? hlast)).ne_nil rfl

/-- A domain name is one to the checker if it is not too long with the dot at its end. -/
theorem AreLabels.isDomain_text :
    ServerName.isDomain (WrittenHost.domain labels rooted h).text =
      decide ((WrittenHost.domain labels rooted h).text.length ≤ 253) := by
  have hall : labels.all ServerName.isLabel = true :=
    List.all_eq_true.mpr fun label hlabel => isLabel_iff.mpr (h.isLabel label hlabel)
  have hlast : labels.getLast?.any (fun label => !label.all Char.isDigit) = true := by
    obtain ⟨label, hlast, c, hc, hdigit⟩ := h.last
    rw [Option.mem_def.mp hlast, Option.any_some, Bool.not_eq_true', List.all_eq_false]
    exact ⟨c, hc, by simp [hdigit]⟩
  have hne : (WrittenHost.domain labels rooted h).text.isEmpty = false :=
    List.isEmpty_eq_false_iff.mpr (WrittenHost.text_ne_nil _)
  rw [ServerName.isDomain, h.labels_text, hall, hlast, hne]
  simp

end Labels

theorem length_dotted (a b c d : Fin 256) : (dotted a b c d).length ≤ 15 := by
  have ha := (isOctet_toDigits a).2
  have hb := (isOctet_toDigits b).2
  have hc := (isOctet_toDigits c).2
  have hd := (isOctet_toDigits d).2
  simp only [dotted, joinWith, List.length_append, List.length_cons]
  omega

/-- Four numbers are four numbers to the checker. -/
theorem isIpv4_dotted (a b c d : Fin 256) : ServerName.isIpv4 (dotted a b c d) = true := by
  have hoctet (n : Fin 256) := (isOctet_toDigits n).1
  have hdot : ∀ part ∈ [Nat.toDigits 10 a, Nat.toDigits 10 b, Nat.toDigits 10 c, Nat.toDigits 10 d],
      '.' ∉ part := by
    intro part hpart hmem
    simp only [List.mem_cons, List.not_mem_nil, or_false] at hpart
    rcases hpart with rfl | rfl | rfl | rfl <;>
      exact absurd (isDigit_of_isOctet (hoctet _) _ hmem) (by decide)
  rw [ServerName.isIpv4, dotted, splitOn_joinWith (by simp) hdot]
  simp [hoctet]

/-- **A certificate can be checked against a host without brackets**, if it is not too long with the
dot at its end. -/
theorem WrittenHost.isValid_text (host : WrittenHost) :
    ServerName.isValid host.text = (!host.isBracketed && decide (host.text.length ≤ 253)) := by
  cases host with
  | ipv6 address haddress =>
    rw [isBracketed, Bool.not_true, Bool.false_and, ← Bool.not_eq_true]
    intro hvalid
    have hbracket := ServerName.isHostChar_of_isValid hvalid '[' List.mem_cons_self
    exact absurd hbracket (by decide)
  | ipv4 a b c d =>
    have hlength : (dotted a b c d).length ≤ 253 := Nat.le_trans (length_dotted a b c d) (by decide)
    simp [ServerName.isValid, isBracketed, text, isIpv4_dotted, hlength]
  | domain labels rooted h =>
    simp only [ServerName.isValid, h.isDomain_text, isBracketed, Bool.not_false, Bool.true_and]
    by_cases hlength : (domain labels rooted h).text.length ≤ 253
    · rw [decide_eq_true hlength, Bool.or_true]
    · -- Only the dot at the end makes a name too long, and it leaves an empty part.
      cases rooted with
      | false => exact absurd (by simpa [text] using h.length) hlength
      | true =>
        have hempty : ServerName.isIpv4 (domain labels true h).text = false := by
          rw [ServerName.isIpv4, h.splitOn_text]
          simp [ServerName.isOctet]
        rw [hempty, decide_eq_false hlength, Bool.or_false]

/-! ## 6. The two outcomes -/

namespace HostPort

variable (secure : Bool) (target : HostPort)

theorem toList_text : target.text.toList = target.host.text ++ target.portText :=
  String.toList_ofList

/-- No host and no port names a scheme. -/
theorem not_mark_isInfix : ¬ Uri.mark <:+: target.text.toList := by
  intro hmark
  have hslash : '/' ∈ target.text.toList := hmark.subset (by decide)
  rw [toList_text] at hslash
  exact (target.ne_of_mem_text hslash).2.1 rfl

/-- The whole target is the authority. -/
theorem bareParts_text : (Uri.bareParts secure target.text).authority = target.text.toList ∧
    (Uri.bareParts secure target.text).rest = [] := by
  have hopen : ∀ c ∈ target.text.toList, (!Uri.endsAuthority c) = true := by
    intro c hc
    rw [toList_text] at hc
    rw [(target.ne_of_mem_text hc).2.2, Bool.not_false]
  exact ⟨List.takeWhile_eq_self_iff.mpr hopen, List.dropWhile_eq_nil_iff.mpr hopen⟩

/-- What a host and a port mean. -/
def uri : Uri := ⟨some ⟨Uri.schemeInUse secure, target.text⟩, "", none⟩

/-- **A host and a port mean themselves**, if they are not too long with a scheme before them. -/
theorem ofTarget?_text : Uri.ofTarget? secure target.text =
    if target.text.utf8ByteSize + (if secure then 8 else 7) ≤ Uri.longest then
      some (target.uri secure) else none := by
  obtain ⟨hauthority, hrest⟩ := target.bareParts_text secure
  have hsize : (Uri.schemeInUse secure ++ "://" ++ target.text).utf8ByteSize =
      target.text.utf8ByteSize + (if secure then 8 else 7) := by
    rw [String.utf8ByteSize_append, Nat.add_comm]
    cases secure <;> rfl
  have hread : Uri.withRest? (some (Uri.bareParts secure target.text).origin)
      (Uri.bareParts secure target.text).rest = some (target.uri secure) := by
    rw [hrest, Uri.origin_bareParts, hauthority, String.ofList_toList]
    rfl
  have haccepted : Uri.isAuthority (Uri.bareParts secure target.text).authority = true := by
    rw [hauthority, toList_text]
    exact target.isAuthority_text
  rw [← hsize]
  by_cases hfits : (Uri.schemeInUse secure ++ "://" ++ target.text).utf8ByteSize ≤ Uri.longest
  · rw [if_pos hfits]
    exact (Uri.ofTarget?_bare target.not_mark_isInfix).mpr ⟨hfits, haccepted, hread⟩
  · rw [if_neg hfits]
    exact Option.eq_none_iff_forall_ne_some.mpr fun uri h =>
      hfits ((Uri.ofTarget?_bare target.not_mark_isInfix).mp h).1

end HostPort

namespace Dial.Options

variable (options : Options) (target : HostPort)

/-- Without TLS settings every host is taken. -/
theorem endpoint_of_hostPort_plainly :
    { options with tls := none }.endpoint target.text =
      if target.text.utf8ByteSize + 7 ≤ Uri.longest then .ok (target.uri false)
      else .error (.invalidEndpoint target.text) := by
  have hread : Uri.ofTarget? { options with tls := none }.usesTls target.text = _ :=
    target.ofTarget?_text false
  rw [endpoint, hread]
  by_cases hfits : target.text.utf8ByteSize + 7 ≤ Uri.longest
  · rw [if_neg Bool.false_ne_true, if_pos hfits, if_pos hfits]
    rfl
  · rw [if_neg Bool.false_ne_true, if_neg hfits, if_neg hfits]

/-- What the TLS settings ask of a host. -/
theorem fits_uri (roots : Roots) : Tls.fits ⟨roots, none⟩ (target.uri true) = true ↔
    roots.areUsable = true ∧ target.host.isBracketed = false ∧ target.host.text.length ≤ 253 := by
  have hhost : ServerName.isValid (⟨"https", target.text⟩ : Origin).host = _ :=
    (congrArg ServerName.isValid (target.host_origin "https")).trans target.host.isValid_text
  simp [Tls.fits, HostPort.uri, Uri.schemeInUse, hhost]

/-- With TLS settings a host without brackets is taken. -/
theorem endpoint_of_hostPort_securely (roots : Roots) :
    (options.withTls ⟨roots, none⟩).endpoint target.text =
      if target.text.utf8ByteSize + 8 ≤ Uri.longest then
        if roots.areUsable = true ∧ target.host.isBracketed = false ∧
            target.host.text.length ≤ 253 then .ok (target.uri true)
        else .error (.tls target.text)
      else .error (.invalidEndpoint target.text) := by
  have hread : Uri.ofTarget? (options.withTls ⟨roots, none⟩).usesTls target.text = _ :=
    target.ofTarget?_text true
  rw [endpoint, hread]
  by_cases hfits : target.text.utf8ByteSize + 8 ≤ Uri.longest
  · rw [if_pos rfl, if_pos hfits, if_pos hfits]
    simp only [← fits_uri]
    rfl
  · rw [if_pos rfl, if_neg hfits, if_neg hfits]

/-- **With TLS settings every host is taken that is taken without, but for the bracketed ones.**
The target is an IPv4 address, an IPv6 address in brackets or a domain name, and perhaps a port.
Without TLS settings its address is itself, after `http`; with usable roots and no identity it is
itself after `https` if no brackets stand in it.  An address has to be short enough to be read, and
`https` is longer by one, so of the other targets one length tells the two apart; and with a dot at
its end a domain name may be one longer than what can be checked. -/
theorem tls_takes_every_host_without_brackets (options : Options) (roots : Roots)
    (target : HostPort) :
    let plain := { options with tls := none }
    let secured := options.withTls ⟨roots, none⟩
    let size := target.text.utf8ByteSize
    plain.endpoint target.text =
      (if size + 7 ≤ Uri.longest then .ok ⟨some ⟨"http", target.text⟩, "", none⟩
        else .error (.invalidEndpoint target.text)) ∧
    secured.endpoint target.text =
      (if size + 8 ≤ Uri.longest then
        if roots.areUsable = true ∧ target.host.isBracketed = false ∧
            target.host.text.length ≤ 253 then .ok ⟨some ⟨"https", target.text⟩, "", none⟩
        else .error (.tls target.text)
      else .error (.invalidEndpoint target.text)) ∧
    (roots.areUsable = true → target.host.isBracketed = false → target.host.text.length ≤ 253 →
      size + 7 ≠ Uri.longest →
      ((∃ uri, secured.endpoint target.text = .ok uri) ↔
        ∃ uri, plain.endpoint target.text = .ok uri)) := by
  intro plain secured size
  have hplain := options.endpoint_of_hostPort_plainly target
  have hsecured := options.endpoint_of_hostPort_securely target roots
  refine ⟨hplain, hsecured, fun hroots hbrackets hlength hsize => ?_⟩
  have hfit : roots.areUsable = true ∧ target.host.isBracketed = false ∧
      target.host.text.length ≤ 253 := ⟨hroots, hbrackets, hlength⟩
  by_cases hfits : target.text.utf8ByteSize + 8 ≤ Uri.longest
  · have hfits' : target.text.utf8ByteSize + 7 ≤ Uri.longest := by omega
    rw [if_pos hfits, if_pos hfit] at hsecured
    rw [if_pos hfits'] at hplain
    exact ⟨fun _ => ⟨_, hplain⟩, fun _ => ⟨_, hsecured⟩⟩
  · have hfits' : ¬ target.text.utf8ByteSize + 7 ≤ Uri.longest := by omega
    rw [if_neg hfits] at hsecured
    rw [if_neg hfits'] at hplain
    refine ⟨?_, ?_⟩ <;> rintro ⟨uri, h⟩
    · exact absurd (hsecured.symm.trans h) (by simp)
    · exact absurd (hplain.symm.trans h) (by simp)

/-- A domain name with a dot at its end, and a port. -/
theorem rooted_domain_is_taken_by_tls :
    (∃ target : HostPort, target.text = "a-1.example.:443") ∧
      ∃ uri, (plaintext.withTls Tls.plain).endpoint "a-1.example.:443" = .ok uri := by
  have hlabels : AreLabels ["a-1".toList, "example".toList] :=
    ⟨fun label hlabel => isLabel_iff.mp (List.all_eq_true.mp (by decide) label hlabel),
      ⟨_, rfl, 'e', by decide, by decide⟩, by decide⟩
  let target : HostPort :=
    ⟨.domain _ true hlabels, some "443".toList, by decide, fun digits hdigits =>
      Option.mem_some_iff.mp hdigits ▸ List.all_eq_true.mp (by decide)⟩
  have htext : target.text = "a-1.example.:443" := rfl
  have hlength : target.host.text.length ≤ 253 := Nat.le_of_ble_eq_true rfl
  obtain ⟨hplain, -, hsame⟩ := tls_takes_every_host_without_brackets plaintext .none target
  rw [htext] at hplain hsame
  have hfits : "a-1.example.:443".utf8ByteSize + 8 ≤ Uri.longest := by decide
  exact ⟨⟨target, htext⟩, (hsame rfl rfl hlength (by omega)).mpr
    ⟨_, hplain.trans (if_pos (by omega))⟩⟩

/-- An IPv6 address and a port: an address without TLS settings and none with them. -/
theorem brackets_are_lost_to_tls :
    plaintext.endpoint "[::1]:443" = .ok ⟨some ⟨"http", "[::1]:443"⟩, "", none⟩ ∧
      (plaintext.withTls Tls.plain).endpoint "[::1]:443" = .error (.tls "[::1]:443") := by
  decide

end Dial.Options
end RegionalDial
