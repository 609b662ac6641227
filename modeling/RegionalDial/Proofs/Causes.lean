/-
# Errors and what caused them

Behind an error may stand the error that caused it, and behind this one another.  An error is told
in one message, and whoever reads it should find in it what went wrong.

`Fault` is any error of a connection, with the errors of others that may be below.
`Fault.cause?` says of each error which one stands right behind it, and `Fault.Trail` is the way
from an error to its root.  Its first part is made of errors made here; then, at the latest where
the transport, the file system or a call comes in, errors of others follow, and only these.  Two
facts about one step carry the rest:

* **An error made here ends with its cause's message**, behind a colon (`Tells.ending`); so, along a
  trail, the messages end with one another down to the first error of others.
* **The chain goes on with the cause's** (`Tells.behind`); so the messages along the trail are the
  chain that is told for the error.

What the errors of others tell of what is behind them is theirs.  A transport error says only that
it is one, so the message of an error need not hold the root of it all
(`message_without_the_root`).

Some errors are no more than another one in a wrapper.  They say what it says and have the cause
that it has, so there is no step from the wrapper to what is inside.
-/
import Mathlib.Data.List.Chain
import RegionalDial.Redirect.Connection

namespace RegionalDial

/-! ## 1. Errors of every kind -/

/-- An error of a connection, or one of others. -/
inductive Fault where
  | foreign (error : Foreign)
  | dial (error : Dial.Error)
  | auth (error : Auth.Error)
  | redirect (error : Redirect.Error)
  | lookup (error : Redirect.LookupError)
  | connect (error : Redirect.ConnectError)

namespace Fault

variable (others : ForeignErrors)

def message : Fault → String
  | foreign error => error.message
  | dial error => error.message others
  | auth error => error.message others
  | redirect error => error.message others
  | lookup error => error.message others
  | connect error => error.message others

/-- The message, then the messages of what caused it, as they are told. -/
def chain : Fault → List String
  | foreign error => error.chain
  | dial error => error.chain others
  | auth error => error.chain others
  | redirect error => error.chain others
  | lookup error => error.chain others
  | connect error => error.chain others

/-- Is the error one of others? -/
def isForeign : Fault → Bool
  | foreign _ => true
  | _ => false

/-- What is in the wrapper, when the error is one. -/
def inside? : Fault → Option Fault
  | auth (.dial error) => some (dial error)
  | lookup (.failed error) => some (redirect error)
  | connect (.auth error) => some (auth error)
  | connect (.redirect error) => some (redirect error)
  | _ => none

/-! ### Causes -/

def causeOfDial (error : Dial.Error) : Option Fault :=
  error.cause?.map fun fault => foreign (others.transport fault)

def causeOfAuth : Auth.Error → Option Fault
  | .readToken cause => some (foreign (others.file cause))
  | .readCa cause => some (foreign (others.file cause))
  | .dial error => causeOfDial others error
  | _ => none

def causeOfRedirect : Redirect.Error → Option Fault
  | .dial _ cause => some (dial cause)
  | .rpc _ status => some (foreign (others.status status))
  | _ => none

/-- The error right behind an error.  A wrapper has the cause of what is in it. -/
def cause? : Fault → Option Fault
  | foreign error => error.source?.map foreign
  | dial error => causeOfDial others error
  | auth error => causeOfAuth others error
  | redirect error => causeOfRedirect others error
  | lookup (.failed error) => causeOfRedirect others error
  | connect (.auth error) => causeOfAuth others error
  | connect (.redirect error) => causeOfRedirect others error
  | _ => none

/-- The way from an error to its root, the error first. -/
inductive Trail : Fault → List Fault → Prop
  | root {fault : Fault} (h : fault.cause? others = none) : Trail fault [fault]
  | behind {fault cause : Fault} {trail : List Fault} (h : fault.cause? others = some cause)
      (hmore : Trail cause trail) : Trail fault (fault :: trail)

variable {others} {fault cause inside : Fault}

/-! ## 2. One step -/

variable (others) in
/-- **A wrapper says what is said inside, and stands in front of the same causes.** -/
theorem same_of_inside? (h : fault.inside? = some inside) :
    fault.message others = inside.message others ∧ fault.cause? others = inside.cause? others ∧
      fault.chain others = inside.chain others := by
  revert h
  fun_cases inside? fault with
  | case5 => nofun
  | _ =>
    intro h
    obtain rfl := Option.some.inj h
    exact ⟨rfl, rfl, rfl⟩

theorem exists_eq_foreign (h : fault.isForeign = true) : ∃ error, fault = foreign error := by
  cases fault with
  | foreign error => exact ⟨error, rfl⟩
  | dial | auth | redirect | lookup | connect => cases h

/-- The message ends with these words. -/
def EndsWith (message words : String) : Prop := ∃ start, message = start ++ words

theorem endsWith_iff {message words : String} :
    EndsWith message words ↔ words.toList <:+ message.toList := by
  constructor
  · rintro ⟨start, rfl⟩
    exact ⟨start.toList, String.toList_append.symm⟩
  · rintro ⟨start, h⟩
    refine ⟨String.ofList start, String.toList_injective ?_⟩
    rw [String.toList_append, String.toList_ofList, h]

instance (message words : String) : Decidable (EndsWith message words) :=
  decidable_of_iff _ endsWith_iff.symm

theorem EndsWith.refl (message : String) : EndsWith message message :=
  ⟨"", String.empty_append.symm⟩

theorem EndsWith.trans {a b c : String} (hab : EndsWith a b) (hbc : EndsWith b c) :
    EndsWith a c := by
  obtain ⟨start, rfl⟩ := hab
  obtain ⟨more, rfl⟩ := hbc
  exact ⟨start ++ more, (String.append_assoc).symm⟩

/-- Each message ends with a colon and the next one. -/
def EachEndsWithNext (messages : List String) : Prop :=
  messages.IsChain fun message next => EndsWith message (": " ++ next)

instance (messages : List String) : Decidable (EachEndsWithNext messages) :=
  inferInstanceAs (Decidable (List.IsChain _ messages))

/-- Then the first ends with the last. -/
theorem EachEndsWithNext.endsWith_last {faults : List Fault}
    (h : EachEndsWithNext (faults.map (message others))) (hhead : faults.head? = some fault) :
    ∃ last, faults.getLast? = some last ∧
      EndsWith (fault.message others) (last.message others) := by
  induction faults generalizing fault with
  | nil => cases hhead
  | cons error more ih =>
    obtain rfl := Option.some.inj hhead
    cases more with
    | nil => exact ⟨error, rfl, .refl _⟩
    | cons next more =>
      obtain ⟨hnext, hmore⟩ := List.isChain_cons_cons.mp h
      obtain ⟨last, hlast, hends⟩ := ih hmore rfl
      have hcolon : EndsWith (": " ++ next.message others) (next.message others) := ⟨": ", rfl⟩
      exact ⟨last, hlast, (hnext.trans hcolon).trans hends⟩

variable (others) in
/-- How an error is told: alone when it is the root, and else in front of its cause, with which its
message ends if it is made here. -/
structure Tells (fault : Fault) : Prop where
  root (h : fault.cause? others = none) : fault.chain others = [fault.message others]
  behind {cause : Fault} (h : fault.cause? others = some cause) :
    fault.chain others = fault.message others :: cause.chain others
  ending {cause : Fault} (hown : fault.isForeign = false) (h : fault.cause? others = some cause) :
    EndsWith (fault.message others) (": " ++ cause.message others)

/-- An error without a cause, whose chain is its message. -/
theorem Tells.of_root (hcause : fault.cause? others = none)
    (hchain : fault.chain others = [fault.message others]) : fault.Tells others where
  root _ := hchain
  behind h := absurd (hcause.symm.trans h) nofun
  ending _ h := absurd (hcause.symm.trans h) nofun

/-- An error in front of its cause, with what it says itself. -/
theorem Tells.of_cause (words : String) (hcause : fault.cause? others = some cause)
    (hchain : fault.chain others = fault.message others :: cause.chain others)
    (hmessage : fault.message others = words ++ ": " ++ cause.message others) :
    fault.Tells others where
  root h := absurd (hcause.symm.trans h) nofun
  behind h := by
    obtain rfl := Option.some.inj (hcause.symm.trans h)
    exact hchain
  ending _ h := by
    obtain rfl := Option.some.inj (hcause.symm.trans h)
    exact ⟨words, by rw [hmessage, String.append_assoc]⟩

theorem Tells.of_inside (hinside : fault.inside? = some inside) (hown : inside.isForeign = false)
    (h : inside.Tells others) : fault.Tells others := by
  obtain ⟨hmessage, hcause, hchain⟩ := same_of_inside? others hinside
  constructor
  · intro hroot
    rw [hchain, hmessage]
    exact h.root (hcause ▸ hroot)
  · intro cause hbehind
    rw [hchain, hmessage]
    exact h.behind (hcause ▸ hbehind)
  · intro cause _ hbehind
    rw [hmessage]
    exact h.ending hown (hcause ▸ hbehind)

/-- An error of others says what it says, whatever is behind it. -/
theorem tells_foreign (error : Foreign) : (foreign error).Tells others := by
  cases error with
  | root message => exact .of_root rfl rfl
  | caused message source =>
    refine ⟨nofun, ?_, nofun⟩
    intro cause h
    obtain rfl := Option.some.inj h
    rfl

theorem tells_dial (error : Dial.Error) : (dial error).Tells others := by
  cases error with
  | invalidEndpoint target => exact .of_cause s!"invalid endpoint {target}" rfl rfl rfl
  | tls target => exact .of_cause s!"invalid TLS configuration for {target}" rfl rfl rfl
  | connect target => exact .of_cause s!"failed to connect to {target}" rfl rfl rfl
  | invalidToken => exact .of_root rfl rfl

theorem tells_auth (error : Auth.Error) : (auth error).Tells others := by
  cases error with
  | readToken cause => exact .of_cause "failed to read token file" rfl rfl rfl
  | readCa cause => exact .of_cause "failed to read ca file" rfl rfl rfl
  | dial error => exact .of_inside rfl rfl (tells_dial error)
  | unknownScheme | wrongParameterCount | missingTokenFile | emptyToken | invalidCa =>
    exact .of_root rfl rfl

theorem tells_redirect (error : Redirect.Error) : (redirect error).Tells others := by
  cases error with
  | noClusterTargets | timeout => exact .of_root rfl rfl
  | dial endpoint cause =>
    refine .of_cause s!"unable to dial {endpoint} for regional redirection" rfl rfl ?_
    -- The words and the colon are one piece of the message.
    have hwords : " for regional redirection: " = " for regional redirection" ++ ": " := rfl
    change s!"unable to dial {endpoint}" ++ " for regional redirection: " ++ cause.message others =
      s!"unable to dial {endpoint}" ++ " for regional redirection" ++ ": " ++ cause.message others
    simp only [hwords, String.append_assoc]
  | rpc endpoint status =>
    exact .of_cause s!"unable to get assignment from {endpoint}" rfl rfl rfl

/-- **Every error is told in front of its cause.** -/
theorem tells (fault : Fault) : fault.Tells others := by
  cases fault with
  | foreign error => exact tells_foreign error
  | dial error => exact tells_dial error
  | auth error => exact tells_auth error
  | redirect error => exact tells_redirect error
  | lookup error =>
    cases error with
    | unimplemented endpoint => exact .of_root rfl rfl
    | failed error => exact .of_inside rfl rfl (tells_redirect error)
  | connect error =>
    cases error with
    | auth error => exact .of_inside rfl rfl (tells_auth error)
    | redirect error => exact .of_inside rfl rfl (tells_redirect error)

/-! ## 3. The whole way -/

namespace Trail

variable {trail other : List Fault}

/-- A trail starts with the error it is about. -/
theorem exists_eq_cons (h : Trail others fault trail) : ∃ more, trail = fault :: more := by
  cases h with
  | root => exact ⟨[], rfl⟩
  | behind _ _ => exact ⟨_, rfl⟩

/-- There is one way from an error to its root. -/
theorem eq (h : Trail others fault trail) (hother : Trail others fault other) : other = trail := by
  induction h generalizing other with
  | root hroot =>
    cases hother with
    | root => rfl
    | behind hcause => exact absurd (hroot.symm.trans hcause) nofun
  | behind hcause _ ih =>
    cases hother with
    | root hroot => exact absurd (hroot.symm.trans hcause) nofun
    | behind hsame hmore =>
      obtain rfl := Option.some.inj (hcause.symm.trans hsame)
      rw [ih hmore]

/-- **The messages along the trail are those that are told.** -/
theorem map_message (h : Trail others fault trail) :
    trail.map (message others) = fault.chain others := by
  induction h with
  | root hroot => exact ((tells _).root hroot).symm
  | behind hcause _ ih => rw [List.map_cons, ih, (tells _).behind hcause]

/-- Behind an error of others are those that it has behind it. -/
theorem eq_map_all {error : Foreign} (h : Trail others (foreign error) trail) :
    trail = error.all.map foreign := by
  induction error generalizing trail with
  | root text =>
    cases h with
    | root => rfl
    | behind hcause => cases hcause
  | caused text source ih =>
    cases h with
    | root hroot => cases hroot
    | behind hcause hmore =>
      obtain rfl := Option.some.inj hcause
      rw [ih hmore, Foreign.all, List.map_cons]

/-- The first of the errors down to one of others is the first of them all. -/
theorem head?_through (own : List Fault) (first? : Option Foreign) :
    (own ++ first?.toList.map foreign).head? =
      (own ++ (first?.toList.flatMap Foreign.all).map foreign).head? := by
  cases own with
  | cons error own => rfl
  | nil =>
    cases first? with
    | none => rfl
    | some error => cases error <;> rfl

/-- **A trail leads through errors made here and then only through those of others.**  The messages
end with one another down to the first of these. -/
theorem exists_own_append (h : Trail others fault trail) :
    ∃ (own : List Fault) (first? : Option Foreign),
      trail = own ++ (first?.toList.flatMap Foreign.all).map foreign ∧
      (∀ error ∈ own, error.isForeign = false) ∧
      EachEndsWithNext ((own ++ first?.toList.map foreign).map (message others)) := by
  induction h with
  | @root fault hroot =>
    cases fault with
    | foreign error =>
      refine ⟨[], some error, ?_, nofun, .singleton _⟩
      simpa using eq_map_all (.root hroot)
    | dial | auth | redirect | lookup | connect =>
      exact ⟨[_], none, rfl, fun _ h => (List.mem_singleton.mp h) ▸ rfl, .singleton _⟩
  | @behind fault cause trail hcause hmore ih =>
    cases hforeign : fault.isForeign with
    | true =>
      obtain ⟨error, rfl⟩ := exists_eq_foreign hforeign
      refine ⟨[], some error, ?_, nofun, .singleton _⟩
      simpa using eq_map_all (.behind hcause hmore)
    | false =>
      obtain ⟨own, first?, htrail, hown, hchain⟩ := ih
      refine ⟨fault :: own, first?, by rw [htrail, List.cons_append],
        List.forall_mem_cons.mpr ⟨hforeign, hown⟩, ?_⟩
      obtain ⟨more, hcons⟩ := hmore.exists_eq_cons
      have hhead : (own ++ first?.toList.map foreign).head? = some cause := by
        rw [head?_through, ← htrail, hcons, List.head?_cons]
      rw [List.cons_append, List.map_cons]
      refine List.isChain_cons.mpr ⟨?_, hchain⟩
      intro next hnext
      rw [List.head?_map, hhead] at hnext
      obtain rfl := Option.some.inj hnext
      exact (tells fault).ending hforeign hcause

end Trail

variable (others) in
/-- Every error has a root. -/
theorem exists_trail (fault : Fault) : ∃ trail, fault.Trail others trail := by
  -- The chain of the cause is shorter.
  induction hlength : (fault.chain others).length using Nat.strongRecOn generalizing fault with
  | ind length ih =>
    cases hcause : fault.cause? others with
    | none => exact ⟨[fault], .root hcause⟩
    | some cause =>
      have hchain := (tells fault).behind hcause
      obtain ⟨trail, htrail⟩ :=
        ih (cause.chain others).length (by simp [← hlength, hchain]) cause rfl
      exact ⟨fault :: trail, .behind hcause htrail⟩

/-- Where the messages down to the first error of others end with one another, all do exactly if
those of others do. -/
theorem eachEndsWithNext_iff {own : List Fault} {first? : Option Foreign}
    (h : EachEndsWithNext ((own ++ first?.toList.map foreign).map (message others))) :
    EachEndsWithNext
        ((own ++ (first?.toList.flatMap Foreign.all).map foreign).map (message others)) ↔
      ∀ error ∈ first?, EachEndsWithNext error.chain := by
  cases first? with
  | none => exact ⟨fun _ => nofun, fun _ => h⟩
  | some error =>
    obtain ⟨more, hmore⟩ : ∃ more, error.chain = error.message :: more := by
      cases error <;> exact ⟨_, rfl⟩
    have hall : (error.all.map foreign).map (message others) = error.message :: more := by
      rw [List.map_map, ← hmore, ← error.map_message_all]
      rfl
    simp only [Option.toList_some, List.flatMap_singleton, List.map_append, hall,
      Option.mem_some_iff, forall_eq', hmore] at h ⊢
    exact List.isChain_split.trans (and_iff_right h)

end Fault

namespace Redirect

/-- The message of a failed redirection names the endpoint. -/
theorem Error.endpoint_in_message (others : ForeignErrors) (error : Error) :
    ∃ before behind, error.message others = before ++ error.endpoint ++ behind := by
  cases error with
  | noClusterTargets endpoint =>
    exact ⟨"no cluster targets returned by ", "", (String.append_empty).symm⟩
  | dial endpoint cause =>
    exact ⟨"unable to dial ", " for regional redirection: " ++ cause.message others,
      String.append_assoc⟩
  | rpc endpoint status =>
    exact ⟨"unable to get assignment from ", ": " ++ (others.status status).message,
      String.append_assoc⟩
  | timeout endpoint limit =>
    exact ⟨"regional redirection via ", " timed out after " ++ limit.text, String.append_assoc⟩

end Redirect

open Fault in
/-- **An error tells what caused it, down to the first error of others.**  Whatever the errors of
others are, one way leads from every error to its root, and the messages on this way are the chain
of the error.  The way goes through errors made here and then through an error of others and those
behind it, if it comes to one.  Down to that one each message ends with a colon and the next, and so
the first ends with the message of that one, or with the root's when there is none.  The whole
chain does the same exactly if the part that is told by others does.  A wrapper has the message, the
cause and the chain of what is in it.  A failed redirection names its endpoint in its message. -/
theorem errors_lead_to_those_of_others :
    (∀ (others : ForeignErrors) (fault : Fault),
      ∃ (trail own : List Fault) (first? : Option Foreign),
        fault.Trail others trail ∧ (∀ other, fault.Trail others other → other = trail) ∧
        trail.map (message others) = fault.chain others ∧
        trail = own ++ (first?.toList.flatMap Foreign.all).map foreign ∧
        (∀ error ∈ own, error.isForeign = false) ∧
        EachEndsWithNext ((own ++ first?.toList.map foreign).map (message others)) ∧
        (∃ last, (own ++ first?.toList.map foreign).getLast? = some last ∧
          EndsWith (fault.message others) (last.message others)) ∧
        (EachEndsWithNext (fault.chain others) ↔
          ∀ error ∈ first?, EachEndsWithNext error.chain)) ∧
    (∀ (others : ForeignErrors) (fault inside : Fault), fault.inside? = some inside →
      fault.message others = inside.message others ∧
        fault.cause? others = inside.cause? others ∧
        fault.chain others = inside.chain others) ∧
    (∀ (others : ForeignErrors) (error : Redirect.Error),
      ∃ before behind, error.message others = before ++ error.endpoint ++ behind) := by
  refine ⟨?_, ?_, ?_⟩
  · intro others fault
    obtain ⟨trail, htrail⟩ := fault.exists_trail others
    obtain ⟨own, first?, hsplit, hown, hchain⟩ := htrail.exists_own_append
    refine ⟨trail, own, first?, htrail, fun _ hother => htrail.eq hother, htrail.map_message,
      hsplit, hown, hchain, ?_, ?_⟩
    · obtain ⟨more, hcons⟩ := htrail.exists_eq_cons
      exact hchain.endsWith_last (by rw [Trail.head?_through, ← hsplit, hcons, List.head?_cons])
    · rw [← htrail.map_message, hsplit]
      exact eachEndsWithNext_iff hchain
  · intro others fault inside hinside
    exact Fault.same_of_inside? others hinside
  · intro others error
    exact error.endpoint_in_message others

example : (Fault.connect (.redirect (.dial "arista.io" (.tls "h:443")))).chain .told =
    ["unable to dial arista.io for regional redirection: " ++
        "invalid TLS configuration for h:443: transport error",
      "invalid TLS configuration for h:443: transport error", "transport error"] := by
  decide

/-- Errors of others among which an address that is no URI has its reason behind it. -/
def othersWithReason : ForeignErrors where
  file := ForeignErrors.told.file
  transport
    | .invalidUri => .caused "invalid URI" (.root "invalid uri character")
    | .other => .root "transport error"
  status := ForeignErrors.told.status

/-- **The root of it all need not be in the message.**  A transport that refuses an address says
only that it is no URI; which character is wrong stands behind that. -/
theorem message_without_the_root :
    let fault := Fault.dial (.invalidEndpoint "a b")
    fault.chain othersWithReason =
        ["invalid endpoint a b: invalid URI", "invalid URI", "invalid uri character"] ∧
      ¬ Fault.EachEndsWithNext (fault.chain othersWithReason) ∧
      ¬ Fault.EndsWith (fault.message othersWithReason) "invalid uri character" := by
  decide

end RegionalDial
