/-
# The header of a call that carries a token

An interceptor puts its token into the headers of a call, in the place of whatever stood there, and
an interceptor without one lets them pass.  The headers may have been through other interceptors
before, and may hold any values under any keys, the key of the token among them.

Two interceptors one after the other are one interceptor, with the second token if there is one and
else the first (`Interceptor.apply_apply`).  So a whole run of them is one interceptor with the last
token (`Interceptor.applyAll_eq`), and no earlier credential is sent besides it or left behind.
-/
import RegionalDial.Proofs.Connecting

namespace RegionalDial

open Text

/-- The key of the token is kept as it is written. -/
theorem AccessToken.normalKey_headerKey : Metadata.normalKey headerKey = headerKey := by
  rw [Metadata.normalKey, ← String.toList_inj, String.toList_map]
  decide

theorem AccessToken.token_of_ofString {text : String} {token : AccessToken}
    (h : ofString text = .ok token) : token.token = text := by
  rw [ofString] at h
  split at h
  · rw [← Except.ok.inj h]
  · exact absurd h (by simp)

namespace Interceptor

/-! ## 1. One interceptor after another -/

/-- **Two interceptors are one, and the later token counts.** -/
theorem apply_apply (first second : Interceptor) (headers : Metadata) :
    second.apply (first.apply headers) =
      (⟨second.token.or first.token⟩ : Interceptor).apply headers := by
  obtain ⟨earlier⟩ := first
  obtain ⟨later⟩ := second
  cases later with
  | none => rfl
  | some token =>
    cases earlier with
    | none => rfl
    | some other => exact Metadata.insert_insert headers _ _ _

/-- The headers after a run of interceptors. -/
def applyAll (interceptors : List Interceptor) (headers : Metadata) : Metadata :=
  interceptors.foldl (fun headers interceptor => interceptor.apply headers) headers

/-- **A run of interceptors is one, with the last of their tokens.** -/
theorem applyAll_eq (interceptors : List Interceptor) (headers : Metadata) :
    applyAll interceptors headers =
      (⟨(interceptors.filterMap Interceptor.token).getLast?⟩ : Interceptor).apply headers := by
  -- The first interceptor is merged with the one that the rest amounts to.
  induction interceptors generalizing headers with
  | nil => rfl
  | cons first rest ih =>
    have hrest : applyAll (first :: rest) headers = applyAll rest (first.apply headers) := rfl
    rw [hrest, ih, apply_apply]
    congr 2
    cases hfirst : first.token with
    | none => simp [hfirst]
    | some token => simp [hfirst, List.getLast?_cons, Option.or_some]

end Interceptor

/-! ## 2. The header of a call -/

/-- **A token is sent once, in the place of every other credential, and nothing else changes.**
With a token in the options, every call goes out with the one value of a bearer under its key,
marked as sensitive, whatever values stood there, and all other keys keep theirs in their order.
Attaching it again changes nothing, and whatever tokens were attached before, the headers are the
same as if there had been none.  Options without a token leave the headers of a call as they
are. -/
theorem token_takes_the_place_of_every_other (options : Dial.Options) (headers : Metadata) :
    (∀ text token, AccessToken.ofString text = .ok token → options.token = some token →
      let sent := options.interceptor.apply headers
      sent.values "authorization" = [⟨Utf8.encode ("Bearer " ++ text), true⟩] ∧
      (∀ key, Metadata.normalKey key ≠ "authorization" → sent.values key = headers.values key) ∧
      options.interceptor.apply sent = sent ∧
      ∀ earlier, options.interceptor.apply (Interceptor.applyAll earlier headers) = sent) ∧
    (options.token = none → options.interceptor.apply headers = headers) := by
  constructor
  · intro text token htext htoken sent
    have hattaches : options.interceptor.Attaches (some token) :=
      htoken ▸ options.interceptor_attaches
    have hlast : ∀ before : Interceptor,
        options.interceptor.apply (before.apply headers) = sent := by
      intro before
      rw [Interceptor.apply_apply, Dial.Options.interceptor, htoken, Option.some_or, ← htoken]
      rfl
    refine ⟨?_, ?_, ?_, ?_⟩
    · rw [← AccessToken.token_of_ofString htext]
      exact (hattaches headers).1
    · intro key hkey
      rw [← AccessToken.headerKey, ← AccessToken.normalKey_headerKey] at hkey
      exact (hattaches headers).2 key hkey
    · exact hlast options.interceptor
    · intro earlier
      rw [Interceptor.applyAll_eq]
      exact hlast _
  · intro htoken
    rw [Dial.Options.interceptor, htoken, Interceptor.apply]

/-- Two earlier credentials go, under either spelling of their key, and the value between them
stays. -/
example :
    let stale : Metadata := ((Metadata.empty.append "Authorization" ⟨[0xFF], false⟩).append "x-id"
      (.ofString "7" false)).append "authorization" (.ofString "Bearer old" true)
    (⟨some ⟨"new", by decide⟩⟩ : Interceptor).apply stale =
      ⟨[("x-id", .ofString "7" false), ("authorization", .ofString "Bearer new" true)]⟩ := by
  cbv

end RegionalDial
