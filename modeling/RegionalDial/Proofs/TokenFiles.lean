/-
# What the file of a token holds

The content of the file goes through three readings, each of which can refuse it: its bytes have to
be text, the text has to hold more than blank characters, and what is left between the blanks at
its ends has to be fit for a header.  They are different alphabets.  A blank may be several bytes
long, and the bytes that break a header are single ones, so it matters that the text is trimmed
first and its bytes are looked at then.

* **The core of a text** (`Text.IsCore`) is what stands between the blanks.  A text that is not all
  blank has one and only one (`Text.isCore_iff`).
* **What is read** (`Auth.Holds`) follows from the content alone, by four cases.
* **Blanks around the content do not count**, also where the content is no text: bytes that are
  not well formed stay so between well formed ones (`Text.Utf8.decode?_between`).
-/
import RegionalDial.Auth.Load

namespace RegionalDial

open Text

/-! ## 1. The core of a text -/

namespace Text

/-- What is left of a text without the blank characters at its two ends, if anything is. -/
structure IsCore (text core : String) : Prop where
  framed : ∃ before after : String, text = before ++ core ++ after ∧
    (∀ c ∈ before.toList, Blank.isBlank c = true) ∧ ∀ c ∈ after.toList, Blank.isBlank c = true
  ne_empty : core ≠ ""
  starts : ∀ c ∈ core.toList.head?, Blank.isBlank c = false
  ends : ∀ c ∈ core.toList.getLast?, Blank.isBlank c = false

theorem Blank.trim_between {before after : String} (hbefore : ∀ c ∈ before.toList, isBlank c = true)
    (hafter : ∀ c ∈ after.toList, isBlank c = true) (text : String) :
    trim (before ++ text ++ after) = trim text := by
  rw [trim, trim, String.toList_append, String.toList_append, trimmed_between hbefore hafter]

theorem Blank.trim_eq_empty_iff {text : String} :
    trim text = "" ↔ ∀ c ∈ text.toList, isBlank c = true := by
  rw [trim, ← trimmed_eq_nil_iff, ← String.toList_inj, String.toList_ofList, String.toList_empty]

theorem IsCore.eq_trim {text core : String} (h : IsCore text core) : core = Blank.trim text := by
  obtain ⟨before, after, rfl, hbefore, hafter⟩ := h.framed
  rw [Blank.trim_between hbefore hafter, Blank.trim, Blank.trimmed_of_bare h.starts h.ends,
    String.ofList_toList]

theorem isCore_trim {text : String} (h : Blank.trim text ≠ "") :
    IsCore text (Blank.trim text) where
  framed := by
    obtain ⟨before, after, htext, hbefore, hafter⟩ := Blank.exists_eq_trimmed_between text.toList
    refine ⟨String.ofList before, String.ofList after, ?_, by simpa using hbefore,
      by simpa using hafter⟩
    rw [← String.toList_inj, String.toList_append, String.toList_append, Blank.trim]
    simpa using htext
  ne_empty := h
  starts := by
    rw [Blank.trim, String.toList_ofList]
    exact Blank.isBlank_of_head?_trimmed
  ends := by
    rw [Blank.trim, String.toList_ofList]
    exact Blank.isBlank_of_getLast?_trimmed

/-- **A text has one core, which is what trimming leaves.** -/
theorem isCore_iff {text core : String} :
    IsCore text core ↔ core = Blank.trim text ∧ Blank.trim text ≠ "" := by
  constructor
  · exact fun h => ⟨h.eq_trim, h.eq_trim ▸ h.ne_empty⟩
  · rintro ⟨rfl, h⟩
    exact isCore_trim h

end Text

/-! ## 2. The bytes of a header -/

/-- The bytes that cannot stand in a header: controls, but for the tab. -/
def BreaksHeader (byte : UInt8) : Prop := (byte < 0x20 ∧ byte ≠ 0x09) ∨ byte = 0x7F

instance (byte : UInt8) : Decidable (BreaksHeader byte) := inferInstanceAs (Decidable (_ ∨ _))

namespace AccessToken

theorem isHeaderByte_eq_false_iff {byte : UInt8} :
    isHeaderByte byte = false ↔ BreaksHeader byte := by
  simp only [isHeaderByte, BreaksHeader, Bool.or_eq_false_iff, Bool.and_eq_false_iff,
    decide_eq_false_iff_not, UInt8.le_iff_toNat_le, UInt8.lt_iff_toNat_lt, ← UInt8.toNat_inj,
    UInt8.reduceToNat, ne_eq]
  omega

theorem isAcceptable_iff {token : String} :
    isAcceptable token = true ↔ ∀ byte ∈ Utf8.encode token, ¬ BreaksHeader byte := by
  simp only [isAcceptable, List.all_eq_true, ← isHeaderByte_eq_false_iff, Bool.not_eq_false]

theorem isAcceptable_eq_false_iff {token : String} :
    isAcceptable token = false ↔ ∃ byte ∈ Utf8.encode token, BreaksHeader byte := by
  simp only [isAcceptable, List.all_eq_false, ← isHeaderByte_eq_false_iff, Bool.not_eq_true]

/-- No byte of the header that carries a token breaks it. -/
theorem not_breaksHeader_of_mem_headerValue (token : AccessToken) :
    ∀ byte ∈ token.headerValue.bytes, ¬ BreaksHeader byte := by
  intro byte hbyte
  rw [headerValue, HeaderValue.ofString, Utf8.encode_append] at hbyte
  rcases List.mem_append.mp hbyte with hbyte | hbyte
  · exact isAcceptable_iff.mp (by decide) byte hbyte
  · exact isAcceptable_iff.mp token.acceptable byte hbyte

end AccessToken

namespace Auth

/-! ## 3. What is read -/

/-- What a content leads to when it is loaded as a token. -/
inductive Holds (content : List UInt8) : Except Error AccessToken → Prop
  | notText (h : Utf8.decode? content = none) : Holds content (.error (.readToken .notText))
  | blank {text : String} (h : Utf8.decode? content = some text)
      (hblank : ∀ c ∈ text.toList, Blank.isBlank c = true) : Holds content (.error .emptyToken)
  | unfit {text core : String} (h : Utf8.decode? content = some text) (hcore : IsCore text core)
      (hbreaks : ∃ byte ∈ Utf8.encode core, BreaksHeader byte) :
      Holds content (.error (.dial .invalidToken))
  | token {text : String} {token : AccessToken} (h : Utf8.decode? content = some text)
      (hcore : IsCore text token.token) : Holds content (.ok token)

variable {files : File.System} {auth : Auth} {content : List UInt8}

theorem credentials_of_read (hread : files.read auth.tokenFile = .ok content) :
    auth.credentials files = match Utf8.decode? content with
      | none => .error (.readToken .notText)
      | some text => tokenOfText text := by
  rw [credentials, File.System.readText, hread]
  cases htext : Utf8.decode? content <;> simp only [htext]

/-- **Loading a token gives what the content of its file holds.** -/
theorem holds_credentials (hread : files.read auth.tokenFile = .ok content) :
    Holds content (auth.credentials files) := by
  rw [credentials_of_read hread]
  cases htext : Utf8.decode? content with
  | none => exact .notText htext
  | some text =>
    simp only [tokenOfText]
    split
    · rename_i hempty
      exact .blank htext (Blank.trim_eq_empty_iff.mp hempty)
    · rename_i hne
      have hcore : IsCore text (Blank.trim text) := isCore_trim hne
      rw [AccessToken.ofString]
      by_cases hfit : AccessToken.isAcceptable (Blank.trim text) = true
      · rw [dif_pos hfit]
        exact .token htext hcore
      · rw [dif_neg hfit]
        exact .unfit htext hcore
          (AccessToken.isAcceptable_eq_false_iff.mp (Bool.eq_false_iff.mpr hfit))

theorem credentials_of_holds (hread : files.read auth.tokenFile = .ok content)
    {outcome : Except Error AccessToken} (h : Holds content outcome) :
    auth.credentials files = outcome := by
  rw [credentials_of_read hread]
  cases h with
  | notText h => rw [h]
  | blank h hblank => simp only [h, tokenOfText, Blank.trim_eq_empty_iff.mpr hblank, if_pos]
  | unfit h hcore hbreaks =>
    have hfit := AccessToken.isAcceptable_eq_false_iff.mpr hbreaks
    simp only [h, tokenOfText, ← hcore.eq_trim, if_neg hcore.ne_empty, AccessToken.ofString, hfit,
      Bool.false_eq_true, dif_neg, not_false_eq_true]
  | token h hcore =>
    rename_i token
    simp only [h, tokenOfText, ← hcore.eq_trim, if_neg hcore.ne_empty, AccessToken.ofString,
      token.acceptable, dif_pos]

/-- **Loading a token gives what the content of its file holds, and nothing else.** -/
theorem credentials_eq_iff (hread : files.read auth.tokenFile = .ok content)
    {outcome : Except Error AccessToken} :
    auth.credentials files = outcome ↔ Holds content outcome :=
  ⟨fun h => h ▸ holds_credentials hread, credentials_of_holds hread⟩

/-- **Blank characters around the content do not count.** -/
theorem credentials_between {wider : File.System} {before after : String}
    (hbefore : ∀ c ∈ before.toList, Blank.isBlank c = true)
    (hafter : ∀ c ∈ after.toList, Blank.isBlank c = true)
    (hread : files.read auth.tokenFile = .ok content)
    (hwider : wider.read auth.tokenFile =
      .ok (Utf8.encode before ++ content ++ Utf8.encode after)) :
    auth.credentials wider = auth.credentials files := by
  rw [credentials_of_read hread, credentials_of_read hwider, Utf8.decode?_between]
  cases Utf8.decode? content with
  | none => rfl
  | some text => simp only [Option.map_some, tokenOfText, Blank.trim_between hbefore hafter]

/-- **The file of a token holds one token between blanks, or it is refused for the first of three
reasons.**  It is no text; or it is blank; or what stands between the blanks, of which there is one
and only one reading, has a byte that breaks a header.  Otherwise this is the token, and it is sent
as a bearer.  So blanks around the content change nothing, and whatever token there is, no line
break and no zero byte comes into a header with it. -/
theorem token_file_holds_one_token_between_blanks (files : File.System) (auth : Auth)
    (content : List UInt8) (hread : files.read auth.tokenFile = .ok content) :
    (∀ cause, auth.credentials files = .error (.readToken cause) ↔
      cause = .notText ∧ Utf8.decode? content = none) ∧
    (auth.credentials files = .error .emptyToken ↔
      ∃ text, Utf8.decode? content = some text ∧ ∀ c ∈ text.toList, Blank.isBlank c = true) ∧
    (auth.credentials files = .error (.dial .invalidToken) ↔
      ∃ text core, Utf8.decode? content = some text ∧ IsCore text core ∧
        ∃ byte ∈ Utf8.encode core, BreaksHeader byte) ∧
    (∀ value, (∃ token, auth.credentials files = .ok token ∧ token.headerValue = value) ↔
      ∃ text core, Utf8.decode? content = some text ∧ IsCore text core ∧
        (∀ byte ∈ Utf8.encode core, ¬ BreaksHeader byte) ∧
        value = .ofString ("Bearer " ++ core) true) ∧
    (∀ text, (∃ c ∈ text.toList, Blank.isBlank c = false) →
      ∃ core, IsCore text core ∧ ∀ other, IsCore text other → other = core) ∧
    (∀ (wider : File.System) (before after : String),
      (∀ c ∈ before.toList, Blank.isBlank c = true) →
      (∀ c ∈ after.toList, Blank.isBlank c = true) →
      wider.read auth.tokenFile = .ok (Utf8.encode before ++ content ++ Utf8.encode after) →
      auth.credentials wider = auth.credentials files) ∧
    ∀ (token : AccessToken) (headers : Metadata),
      ∀ value ∈ ((⟨some token⟩ : Interceptor).apply headers).values AccessToken.headerKey,
        ∀ byte ∈ value.bytes, byte ≠ 0x0D ∧ byte ≠ 0x0A ∧ byte ≠ 0x00 := by
  refine ⟨?_, ?_, ?_, ?_, ?_, ?_, ?_⟩
  · intro cause
    rw [credentials_eq_iff hread]
    constructor
    · rintro ⟨h⟩
      exact ⟨rfl, h⟩
    · rintro ⟨rfl, h⟩
      exact .notText h
  · rw [credentials_eq_iff hread]
    constructor
    · intro h
      cases h with
      | blank h hblank => exact ⟨_, h, hblank⟩
    · rintro ⟨text, h, hblank⟩
      exact .blank h hblank
  · rw [credentials_eq_iff hread]
    constructor
    · intro h
      cases h with
      | unfit h hcore hbreaks => exact ⟨_, _, h, hcore, hbreaks⟩
    · rintro ⟨text, core, h, hcore, hbreaks⟩
      exact .unfit h hcore hbreaks
  · intro value
    constructor
    · rintro ⟨token, htoken, rfl⟩
      cases (credentials_eq_iff hread).mp htoken with
      | token h hcore =>
        exact ⟨_, _, h, hcore, AccessToken.isAcceptable_iff.mp token.acceptable, rfl⟩
    · rintro ⟨text, core, h, hcore, hfit, rfl⟩
      -- A text without a byte that breaks a header is a token, and it is the one that is read.
      let token : AccessToken := ⟨core, AccessToken.isAcceptable_iff.mpr hfit⟩
      have hholds : Holds content (.ok token) := .token h hcore
      exact ⟨token, credentials_of_holds hread hholds, rfl⟩
  · rintro text ⟨c, hc, hbare⟩
    have hne : Blank.trim text ≠ "" := by
      intro hempty
      have hblank := Blank.trim_eq_empty_iff.mp hempty c hc
      exact absurd (hbare.symm.trans hblank) (by simp)
    refine ⟨_, isCore_trim hne, ?_⟩
    intro other hother
    exact hother.eq_trim
  · intro wider before after hbefore hafter hwider
    exact credentials_between hbefore hafter hread hwider
  · intro token headers value hvalue byte hbyte
    have hone : value = token.headerValue := by
      simpa [Interceptor.apply] using hvalue
    have hfit := AccessToken.not_breaksHeader_of_mem_headerValue token byte (hone ▸ hbyte)
    refine ⟨?_, ?_, ?_⟩ <;> rintro rfl <;> exact hfit (by decide)

/-- A content with blanks of one, two and three bytes around its token, and a tab inside. -/
def blankedContent : List UInt8 := Utf8.encode "\u3000 se\tcret\u0085\r\n"

/-- The tab is sent, and the blanks around it are not. -/
theorem token_between_wide_blanks_is_taken :
    let files : File.System := ⟨fun _ => .ok blankedContent⟩
    let auth : Auth := ⟨Path.ofString "t", none⟩
    files.read auth.tokenFile = .ok blankedContent ∧
      ∃ token, auth.credentials files = .ok token ∧
        token.headerValue = .ofString "Bearer se\tcret" true := by
  intro files auth
  have hread : files.read auth.tokenFile = .ok blankedContent := rfl
  refine ⟨hread, ((token_file_holds_one_token_between_blanks files auth _ hread).2.2.2.1 _).mpr
    ⟨"\u3000 se\tcret\u0085\r\n", "se\tcret", Utf8.decode?_encode _, ?_, ?_, ?_⟩⟩
  · exact isCore_iff.mpr ⟨by decide, by decide⟩
  · exact AccessToken.isAcceptable_iff.mp (by decide)
  · decide

end Auth
end RegionalDial
