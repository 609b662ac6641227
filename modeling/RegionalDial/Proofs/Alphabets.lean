/-
# The two alphabets of a header

A header is written in one alphabet and read in another.  Every byte may be written that is no
control, and the tab besides.  Read as text are the tab and the bytes from a space to `~`, and a
value with any other byte in it is not read as text at all.  So a token can be accepted and sent,
and yet be lost on a receiver that asks for text.

Between the alphabets lie the bytes from 128 on (`HeaderValue.isTextByte_iff`).  They are the bytes
of the characters beyond ASCII, and of no others (`Text.Utf8.forall_lt_encode_iff`).  This decides
which tokens are read back (`AccessToken.toText?_headerValue`), wherever they come from: a token
that is loaded is the text between the blanks of its file, and a byte order mark is no blank.
-/
import RegionalDial.Proofs.Headers
import RegionalDial.Proofs.TokenFiles

namespace RegionalDial

open Text

/-! ## 1. Characters and bytes -/

/-- Is every character of the text an ASCII one? -/
def IsAsciiText (text : String) : Prop := ∀ c ∈ text.toList, c.toNat < 0x80

instance (text : String) : Decidable (IsAsciiText text) :=
  List.decidableBAll (fun c : Char => c.toNat < 0x80) text.toList

/-- An ASCII text has one byte for each of its characters. -/
theorem Text.Utf8.mem_encode_iff_of_isAsciiText {text : String} (h : IsAsciiText text)
    {byte : UInt8} : byte ∈ encode text ↔ ∃ c ∈ text.toList, byte = UInt8.ofNat c.toNat := by
  rw [encode_eq_flatMap, List.mem_flatMap]
  refine exists_congr fun c => and_congr_right fun hc => ?_
  rw [utf8EncodeChar_ascii (Nat.le_of_lt_succ (h c hc)), List.mem_singleton]
  exact Iff.rfl

/-- **A text is ASCII if its bytes are.** -/
theorem Text.Utf8.forall_lt_encode_iff {text : String} :
    (∀ byte ∈ encode text, byte.toNat < 0x80) ↔ IsAsciiText text := by
  constructor
  · intro h c hc
    -- Otherwise all bytes of the character are large, and there is one.
    refine Nat.lt_of_not_le fun hlarge => ?_
    obtain ⟨byte, hbyte⟩ := List.exists_mem_of_ne_nil _ (String.utf8EncodeChar_ne_nil (c := c))
    have hmem : byte ∈ encode text := by
      rw [encode_eq_flatMap]
      exact List.mem_flatMap.mpr ⟨c, hc, hbyte⟩
    have hlow := h byte hmem
    have hhigh := le_of_mem_utf8EncodeChar hlarge hbyte
    exact absurd hlow (Nat.not_lt.mpr hhigh)
  · intro h byte hbyte
    obtain ⟨c, hc, rfl⟩ := (mem_encode_iff_of_isAsciiText h).mp hbyte
    rw [UInt8.toNat_ofNat']
    exact Nat.lt_of_le_of_lt (Nat.mod_le _ _) (h c hc)

/-- **Of what may be written, the bytes from 128 on are not read as text.** -/
theorem HeaderValue.isTextByte_iff {byte : UInt8} (h : ¬ BreaksHeader byte) :
    isTextByte byte = true ↔ byte.toNat < 0x80 := by
  simp only [BreaksHeader, UInt8.lt_iff_toNat_lt, ← UInt8.toNat_inj, UInt8.reduceToNat, ne_eq] at h
  simp only [isTextByte, Bool.or_eq_true, Bool.and_eq_true, decide_eq_true_eq,
    UInt8.le_iff_toNat_le, UInt8.lt_iff_toNat_lt, ← UInt8.toNat_inj, UInt8.reduceToNat]
  omega

/-! ## 2. What a receiver reads -/

/-- A value of text is read as this text, or not at all. -/
theorem HeaderValue.toText?_ofString (text : String) (sensitive : Bool) :
    (ofString text sensitive).toText? =
      if (ofString text sensitive).isAscii then some text else none := by
  rw [toText?, ofString, Utf8.decode?_encode]

namespace AccessToken

/-- The word before a token is ASCII, so the token decides. -/
theorem isAsciiText_bearer_iff {text : String} :
    IsAsciiText ("Bearer " ++ text) ↔ IsAsciiText text := by
  have hword : ("Bearer ".toList.all fun c => c.toNat < 0x80) = true := by decide
  simp only [IsAsciiText, String.toList_append, List.mem_append]
  constructor
  · intro h c hc
    exact h c (.inr hc)
  · rintro h c (hc | hc)
    · exact of_decide_eq_true (List.all_eq_true.mp hword c hc)
    · exact h c hc

theorem isAscii_headerValue_iff (token : AccessToken) :
    token.headerValue.isAscii = true ↔ IsAsciiText token.token := by
  rw [← isAsciiText_bearer_iff, ← Utf8.forall_lt_encode_iff, HeaderValue.isAscii, List.all_eq_true]
  refine forall₂_congr fun byte hbyte => ?_
  exact HeaderValue.isTextByte_iff (not_breaksHeader_of_mem_headerValue token byte hbyte)

/-- **A token is read back if it is ASCII, and otherwise nothing is.** -/
theorem toText?_headerValue (token : AccessToken) :
    token.headerValue.toText? =
      if IsAsciiText token.token then some ("Bearer " ++ token.token) else none := by
  have hascii := token.isAscii_headerValue_iff
  rw [headerValue] at hascii ⊢
  rw [HeaderValue.toText?_ofString]
  simp only [hascii]

theorem ofString_eq_ok_iff {text : String} {token : AccessToken} :
    ofString text = .ok token ↔ token.token = text := by
  constructor
  · exact token_of_ofString
  · rintro rfl
    rw [ofString, dif_pos token.acceptable]

theorem not_breaksHeader_iff_of_ascii {c : Char} (h : c.toNat < 0x80) :
    ¬ BreaksHeader (UInt8.ofNat c.toNat) ↔ c = '\t' ∨ (' ' ≤ c ∧ c ≤ '~') := by
  have hbyte : (UInt8.ofNat c.toNat).toNat = c.toNat := by
    rw [UInt8.toNat_ofNat']
    omega
  have htab : c = '\t' ↔ c.toNat = 0x09 := Char.toNat_inj.symm
  have hspace : ' ' ≤ c ↔ 0x20 ≤ c.toNat := Iff.rfl
  have htilde : c ≤ '~' ↔ c.toNat ≤ 0x7E := Iff.rfl
  rw [htab, hspace, htilde]
  simp only [BreaksHeader, UInt8.lt_iff_toNat_lt, ← UInt8.toNat_inj, hbyte, UInt8.reduceToNat,
    ne_eq]
  omega

/-- The texts that are accepted and read back are made of tabs and the characters from a space to
`~`. -/
theorem isAcceptable_and_isAsciiText_iff {text : String} :
    isAcceptable text = true ∧ IsAsciiText text ↔
      ∀ c ∈ text.toList, c = '\t' ∨ (' ' ≤ c ∧ c ≤ '~') := by
  rw [isAcceptable_iff]
  constructor
  · rintro ⟨hfit, hascii⟩ c hc
    have hbyte := (Utf8.mem_encode_iff_of_isAsciiText hascii).mpr ⟨c, hc, rfl⟩
    exact (not_breaksHeader_iff_of_ascii (hascii c hc)).mp (hfit _ hbyte)
  · intro h
    have hascii : IsAsciiText text := by
      intro c hc
      rcases h c hc with rfl | ⟨-, htilde⟩
      · decide
      · exact Nat.lt_of_le_of_lt (show c.toNat ≤ 0x7E from htilde) (by decide)
    refine ⟨?_, hascii⟩
    intro byte hbyte
    obtain ⟨c, hc, rfl⟩ := (Utf8.mem_encode_iff_of_isAsciiText hascii).mp hbyte
    exact (not_breaksHeader_iff_of_ascii (hascii c hc)).mpr (h c hc)

end AccessToken

/-- **What is loaded from a file is accepted as the text between its blanks.** -/
theorem Auth.isCore_of_credentials {files : File.System} {auth : Auth} {token : AccessToken}
    (h : auth.credentials files = .ok token) :
    ∃ content document, files.read auth.tokenFile = .ok content ∧
      Utf8.decode? content = some document ∧ IsCore document token.token := by
  cases hread : files.read auth.tokenFile with
  | error cause =>
    rw [credentials, File.System.readText, hread] at h
    exact absurd h (by simp)
  | ok content =>
    cases (credentials_eq_iff hread).mp h with
    | token htext hcore => exact ⟨content, _, rfl, htext, hcore⟩

/-! ## 3. Which tokens are read back -/

/-- **A token is read back from its header if it is ASCII, and otherwise it is lost.**  Where a text
is accepted, the header holds its bytes behind the word for a bearer.  The receiver reads this text
if every character of the token is ASCII, and no text if one is not; so a text can be sent and be
read if it is made of tabs and of the characters from a space to `~`.  A file makes no difference:
a token that is loaded is the text between the blanks of its file, and is accepted as such. -/
theorem token_is_read_back_iff_ascii (text : String) :
    (∀ token, AccessToken.ofString text = .ok token →
      token.headerValue.bytes = Utf8.encode ("Bearer " ++ text) ∧
      (token.headerValue.isAscii = true ↔ ∀ c ∈ text.toList, c.toNat < 0x80) ∧
      ((∀ c ∈ text.toList, c.toNat < 0x80) →
        token.headerValue.toText? = some ("Bearer " ++ text)) ∧
      ((∃ c ∈ text.toList, 0x80 ≤ c.toNat) → token.headerValue.toText? = none)) ∧
    ((∃ token, AccessToken.ofString text = .ok token ∧
        token.headerValue.toText? = some ("Bearer " ++ text)) ↔
      ∀ c ∈ text.toList, c = '\t' ∨ (' ' ≤ c ∧ c ≤ '~')) ∧
    (∀ (files : File.System) (auth : Auth) (token : AccessToken),
      auth.credentials files = .ok token → token.token = text →
      AccessToken.ofString text = .ok token ∧
      ∃ content document, files.read auth.tokenFile = .ok content ∧
        Utf8.decode? content = some document ∧ IsCore document text) := by
  refine ⟨?_, ?_, ?_⟩
  · intro token h
    obtain rfl := AccessToken.ofString_eq_ok_iff.mp h
    refine ⟨rfl, token.isAscii_headerValue_iff, ?_, ?_⟩
    · intro hascii
      rw [AccessToken.toText?_headerValue]
      exact if_pos hascii
    · rintro ⟨c, hc, hlarge⟩
      rw [AccessToken.toText?_headerValue]
      exact if_neg fun hascii => absurd (hascii c hc) (Nat.not_lt.mpr hlarge)
  · rw [← AccessToken.isAcceptable_and_isAsciiText_iff]
    constructor
    · rintro ⟨token, h, hread⟩
      obtain rfl := AccessToken.ofString_eq_ok_iff.mp h
      rw [AccessToken.toText?_headerValue, Option.ite_none_right_eq_some] at hread
      exact ⟨token.acceptable, hread.1⟩
    · rintro ⟨hfit, hascii⟩
      refine ⟨⟨text, hfit⟩, AccessToken.ofString_eq_ok_iff.mpr rfl, ?_⟩
      rw [AccessToken.toText?_headerValue]
      exact if_pos hascii
  · rintro files auth token h rfl
    exact ⟨AccessToken.ofString_eq_ok_iff.mpr rfl, Auth.isCore_of_credentials h⟩

/-- A tab and a tilde are read back. -/
example : (⟨"a\t~", by decide⟩ : AccessToken).headerValue.toText? = some "Bearer a\t~" := by rfl

/-- The content of a file that starts with a byte order mark. -/
def markedContent : List UInt8 := [0xEF, 0xBB, 0xBF] ++ Utf8.encode "secret\n"

/-- **A token behind a byte order mark is accepted and never read.**  The mark is no blank
character, so it belongs to the token, and it is no control, so it is sent.  The receiver gets no
text for the whole of it. -/
theorem token_behind_mark_is_accepted_and_not_read :
    ∃ token, AccessToken.ofString "\ufeffsecret" = .ok token ∧
      (⟨Path.ofString "t", none⟩ : Auth).credentials ⟨fun _ => .ok markedContent⟩ = .ok token ∧
      token.headerValue.isAscii = false ∧ token.headerValue.toText? = none :=
  ⟨⟨"\ufeffsecret", by decide⟩, by rfl, by rfl, by decide, by rfl⟩

end RegionalDial
