/-
# What a command line says

Behind the name of a command stand its flags, in any order.  A flag is called by its name or, if it
has one, by its letter, and its value is joined to the call or is the next argument, where it has
to be a word.  These rules make a grammar that says nothing of reading: a list of arguments spells a
list of settings (`Spells`).  Exactly the lists that spell settings are read, and then the settings
are made one after another (`readFlags_eq_ok_iff`).

A word does not start with a dash, so no value hides among the flags and no flag among the values.
That is why it can be seen on the arguments alone what is set (`Spells.mem_iff_gives`): they hold
the name and the value joined, or the one right before the other.
-/
import Mathlib.Data.List.TakeWhile
import RegionalDial.Command.Arguments

namespace RegionalDial
namespace Command

open Text

/-! ## 1. Calls of a flag -/

/-- The flag, called by its name. -/
def Flag.called (flag : Flag) : List UInt8 := dash :: dash :: Utf8.encode flag.name

/-- The flag, called by its name and with a value joined to it. -/
def Flag.calledWith (flag : Flag) (value : List UInt8) : List UInt8 :=
  flag.called ++ equalsSign :: value

/-- The byte is the letter of the flag. -/
def Flag.IsLetter (flag : Flag) (letter : UInt8) : Prop :=
  ∃ c, flag.letter? = some c ∧ c.toNat = letter.toNat

/-- What can stand behind a letter: nothing, or a value, perhaps after an equals sign. -/
inductive Behind : List UInt8 → Option (List UInt8) → Prop
  | nothing : Behind [] none
  | afterSign (value : List UInt8) : Behind (equalsSign :: value) (some value)
  | value {first : UInt8} (hfirst : first ≠ equalsSign) (more : List UInt8) :
      Behind (first :: more) (some (first :: more))

/-- An argument calls a flag of a command, with a value joined to it or without one. -/
inductive Calls (verb : Verb) : List UInt8 → Flag → Option (List UInt8) → Prop
  | name {flag : Flag} (hmem : flag ∈ verb.flags) : Calls verb flag.called flag none
  | nameWith {flag : Flag} (hmem : flag ∈ verb.flags) (value : List UInt8) :
      Calls verb (flag.calledWith value) flag (some value)
  | letter {flag : Flag} {letter : UInt8} {rest : List UInt8} {value? : Option (List UInt8)}
      (hmem : flag ∈ verb.flags) (hletter : flag.IsLetter letter) (hrest : Behind rest value?) :
      Calls verb (dash :: letter :: rest) flag value?

/-- The argument can be a value that stands alone: it does not start with a dash, or it is one. -/
def IsWord (bytes : List UInt8) : Prop := bytes.head? ≠ some dash ∨ bytes = [dash]

/-- How an argument of each form is written. -/
inductive Argument.Written : List UInt8 → Argument → Prop
  | dashes : Written [dash, dash] .dashes
  | long {name : List UInt8} (hnamed : name ≠ []) (hname : equalsSign ∉ name) :
      Written (dash :: dash :: name) (.long name none)
  | longWith {name : List UInt8} (hname : equalsSign ∉ name) (value : List UInt8) :
      Written (dash :: dash :: (name ++ equalsSign :: value)) (.long name (some value))
  | short {letter : UInt8} (hletter : letter ≠ dash) (rest : List UInt8) :
      Written (dash :: letter :: rest) (.short letter rest)
  | word {bytes : List UInt8} (h : IsWord bytes) : Written bytes (.word bytes)

/-! ## 2. Reading one argument -/

namespace Argument

variable {bytes word name : List UInt8} {argument : Argument}

theorem ne_equalsSign (hname : equalsSign ∉ name) :
    ∀ byte ∈ name, decide (byte ≠ equalsSign) = true := by
  intro byte hbyte
  exact decide_eq_true fun heq => hname (heq ▸ hbyte)

/-- The name behind two dashes ends before the first equals sign. -/
theorem ofBytes_longWith (hname : equalsSign ∉ name) (value : List UInt8) :
    ofBytes (dash :: dash :: (name ++ equalsSign :: value)) = .long name (some value) := by
  have hdrop : (name ++ equalsSign :: value).dropWhile (· ≠ equalsSign) = equalsSign :: value := by
    rw [List.dropWhile_append_of_pos (ne_equalsSign hname)]
    simp
  have htake : (name ++ equalsSign :: value).takeWhile (· ≠ equalsSign) = name := by
    rw [List.takeWhile_append_of_pos (ne_equalsSign hname)]
    simp
  simp only [ofBytes, if_true, hdrop, htake]
  simp

theorem ofBytes_long (hnamed : name ≠ []) (hname : equalsSign ∉ name) :
    ofBytes (dash :: dash :: name) = .long name none := by
  have hdrop : name.dropWhile (· ≠ equalsSign) = [] :=
    List.dropWhile_eq_nil_iff.mpr (ne_equalsSign hname)
  simp only [ofBytes, if_true, if_neg hnamed, hdrop]

theorem ofBytes_word (h : IsWord bytes) : ofBytes bytes = .word bytes := by
  rcases bytes with _ | ⟨first, _ | ⟨second, rest⟩⟩
  · rfl
  · rfl
  · have hfirst : first ≠ dash := by
      rcases h with h | h
      · simpa using h
      · exact absurd h (by simp)
    simp only [ofBytes, if_neg hfirst]

theorem Written.ofBytes_eq (h : Written bytes argument) : ofBytes bytes = argument := by
  cases h with
  | dashes => rfl
  | long hnamed hname => exact ofBytes_long hnamed hname
  | longWith hname value => exact ofBytes_longWith hname value
  | short hletter rest => simp only [ofBytes, if_true, if_neg hletter]
  | word h => exact ofBytes_word h

/-- Every argument has a form. -/
theorem exists_written (bytes : List UInt8) : ∃ argument, Written bytes argument := by
  rcases bytes with _ | ⟨first, tail⟩
  · exact ⟨_, .word (.inl (by simp))⟩
  by_cases hfirst : first = dash
  · subst hfirst
    rcases tail with _ | ⟨second, rest⟩
    · exact ⟨_, .word (.inr rfl)⟩
    by_cases hsecond : second = dash
    · subst hsecond
      by_cases hmem : equalsSign ∈ rest
      · obtain ⟨name, value, rfl, hname⟩ := List.eq_append_cons_of_mem hmem
        exact ⟨_, .longWith hname value⟩
      · by_cases hrest : rest = []
        · subst hrest
          exact ⟨_, .dashes⟩
        · exact ⟨_, .long hrest hmem⟩
    · exact ⟨_, .short hsecond rest⟩
  · exact ⟨_, .word (.inl (by simpa using hfirst))⟩

/-- **An argument has the form that it is written in.** -/
theorem ofBytes_eq_iff : ofBytes bytes = argument ↔ Written bytes argument := by
  constructor
  · rintro rfl
    obtain ⟨argument, h⟩ := exists_written bytes
    rwa [h.ofBytes_eq]
  · exact Written.ofBytes_eq

theorem ofBytes_eq_dashes_iff : ofBytes bytes = .dashes ↔ bytes = [dash, dash] := by
  constructor
  · intro h
    cases ofBytes_eq_iff.mp h
    rfl
  · rintro rfl
    rfl

theorem ofBytes_eq_word_iff : ofBytes bytes = .word word ↔ word = bytes ∧ IsWord bytes := by
  constructor
  · intro h
    cases ofBytes_eq_iff.mp h with
    | word hword => exact ⟨rfl, hword⟩
  · rintro ⟨rfl, hword⟩
    exact ofBytes_word hword

end Argument

section Calling

variable {verb : Verb} {flag other : Flag} {call value : List UInt8}
  {value? other? : Option (List UInt8)}

/-- No name of a flag holds an equals sign. -/
theorem Flag.equalsSign_not_mem_name (flag : Flag) : equalsSign ∉ Utf8.encode flag.name := by
  cases flag <;> decide

theorem Flag.name_ne_nil (flag : Flag) : Utf8.encode flag.name ≠ [] := by
  cases flag <;> decide

theorem Flag.ofBytes_called (flag : Flag) :
    Argument.ofBytes flag.called = .long (Utf8.encode flag.name) none :=
  Argument.ofBytes_long flag.name_ne_nil flag.equalsSign_not_mem_name

theorem Flag.ofBytes_calledWith (flag : Flag) (value : List UInt8) :
    Argument.ofBytes (flag.calledWith value) = .long (Utf8.encode flag.name) (some value) :=
  Argument.ofBytes_longWith flag.equalsSign_not_mem_name value

theorem Flag.IsLetter.ofBytes_eq {letter : UInt8} (h : flag.IsLetter letter) (rest : List UInt8) :
    Argument.ofBytes (dash :: letter :: rest) = .short letter rest := by
  refine (Argument.Written.short ?_ rest).ofBytes_eq
  rintro rfl
  obtain ⟨c, hc, hletter⟩ := h
  cases flag <;> cases hc
  exact absurd hletter (by decide)

/-- The flags of a command have different names. -/
theorem Verb.flagNamed?_eq_some_iff {name : List UInt8} :
    verb.flagNamed? name = some flag ↔ flag ∈ verb.flags ∧ name = Utf8.encode flag.name := by
  constructor
  · intro h
    have hname := List.find?_some h
    exact ⟨List.mem_of_find?_eq_some h, (beq_iff_eq.mp hname).symm⟩
  · rintro ⟨hmem, rfl⟩
    revert hmem
    cases verb <;> cases flag <;> decide

/-- A letter stands for one flag of a command. -/
theorem Verb.flagLettered?_eq_some_iff {letter : UInt8} :
    verb.flagLettered? letter = some flag ↔ flag ∈ verb.flags ∧ flag.IsLetter letter := by
  constructor
  · intro h
    have hletter := List.find?_some h
    simp only [Option.any_eq_true, decide_eq_true_eq] at hletter
    exact ⟨List.mem_of_find?_eq_some h, hletter⟩
  · rintro ⟨hmem, c, hc, hletter⟩
    -- Only one flag has a letter.
    cases flag <;> cases hc
    cases verb with
    | resolve => simp [flagLettered?, flags, targetFlags, Flag.letter?, hletter]
    | connect => exact absurd hmem (by decide)
    | serve => exact absurd hmem (by decide)

theorem flagOf?_short_eq_some_iff {letter : UInt8} {rest : List UInt8} :
    flagOf? verb (.short letter rest) = some (flag, value?) ↔
      verb.flagLettered? letter = some flag ∧ Behind rest value? := by
  refine Option.map_eq_some_iff.trans ?_
  constructor
  · rintro ⟨found, hfound, heq⟩
    cases heq
    refine ⟨hfound, ?_⟩
    rcases rest with _ | ⟨first, more⟩
    · exact .nothing
    · by_cases hfirst : first = equalsSign
      · simp only [hfirst, if_true]
        exact .afterSign more
      · simp only [if_neg hfirst]
        exact .value hfirst more
  · rintro ⟨hfound, hrest⟩
    refine ⟨flag, hfound, ?_⟩
    cases hrest with
    | nothing => rfl
    | afterSign value => simp only [if_true]
    | value hfirst more => simp only [if_neg hfirst]

/-- **An argument is read as the call that it is.** -/
theorem flagOf?_eq_some_iff :
    flagOf? verb (.ofBytes call) = some (flag, value?) ↔ Calls verb call flag value? := by
  constructor
  · intro h
    obtain ⟨argument, hwritten⟩ := Argument.exists_written call
    rw [hwritten.ofBytes_eq] at h
    cases hwritten with
    | dashes => exact absurd h (by simp [flagOf?])
    | word => exact absurd h (by simp [flagOf?])
    | long hnamed hname =>
      obtain ⟨found, hfound, heq⟩ := Option.map_eq_some_iff.mp h
      cases heq
      obtain ⟨hmem, rfl⟩ := Verb.flagNamed?_eq_some_iff.mp hfound
      exact .name hmem
    | longWith hname value =>
      obtain ⟨found, hfound, heq⟩ := Option.map_eq_some_iff.mp h
      cases heq
      obtain ⟨hmem, rfl⟩ := Verb.flagNamed?_eq_some_iff.mp hfound
      exact .nameWith hmem value
    | short hletter rest =>
      obtain ⟨hfound, hrest⟩ := flagOf?_short_eq_some_iff.mp h
      obtain ⟨hmem, hletter⟩ := Verb.flagLettered?_eq_some_iff.mp hfound
      exact .letter hmem hletter hrest
  · intro h
    cases h with
    | name hmem =>
      rw [Flag.ofBytes_called, flagOf?, Verb.flagNamed?_eq_some_iff.mpr ⟨hmem, rfl⟩,
        Option.map_some]
    | nameWith hmem value =>
      rw [Flag.ofBytes_calledWith, flagOf?, Verb.flagNamed?_eq_some_iff.mpr ⟨hmem, rfl⟩,
        Option.map_some]
    | letter hmem hletter hrest =>
      rw [hletter.ofBytes_eq]
      exact flagOf?_short_eq_some_iff.mpr
        ⟨Verb.flagLettered?_eq_some_iff.mpr ⟨hmem, hletter⟩, hrest⟩

/-- A call does not ask for help or for the version. -/
theorem asked?_of_calls (h : Calls verb call flag value?) (asking : Option Verb) :
    asked? asking (.ofBytes call) = none := by
  cases h with
  | name hmem =>
    rw [Flag.ofBytes_called]
    cases flag <;> rfl
  | nameWith hmem value =>
    rw [Flag.ofBytes_calledWith]
    rfl
  | letter hmem hletter hrest =>
    rw [hletter.ofBytes_eq]
    obtain ⟨c, hc, hsame⟩ := hletter
    cases flag <;> cases hc
    simp [asked?, ← hsame]

/-- A call is no word. -/
theorem Calls.not_isWord (h : Calls verb call flag value?) : ¬ IsWord call := by
  intro hword
  have hflag := flagOf?_eq_some_iff.mpr h
  rw [Argument.ofBytes_word hword] at hflag
  exact absurd hflag (by simp [flagOf?])

theorem not_calls_dashes : ¬ Calls verb [dash, dash] flag value? := by
  intro h
  have hflag := flagOf?_eq_some_iff.mpr h
  rw [Argument.ofBytes_eq_dashes_iff.mpr rfl] at hflag
  exact absurd hflag (by simp [flagOf?])

/-- What reading finds out about a call. -/
theorem Calls.is_read (h : Calls verb call flag value?) :
    Argument.ofBytes call ≠ .dashes ∧ asked? (some verb) (.ofBytes call) = none ∧
      flagOf? verb (.ofBytes call) = some (flag, value?) := by
  refine ⟨?_, asked?_of_calls h (some verb), flagOf?_eq_some_iff.mpr h⟩
  intro hform
  obtain rfl := Argument.ofBytes_eq_dashes_iff.mp hform
  exact not_calls_dashes h

/-- A call calls one flag, in one way. -/
theorem Calls.inj (h : Calls verb call flag value?) (hother : Calls verb call other other?) :
    flag = other ∧ value? = other? := by
  have hsame := (flagOf?_eq_some_iff.mpr h).symm.trans (flagOf?_eq_some_iff.mpr hother)
  exact Prod.mk.inj (Option.some.inj hsame)

/-- A flag without a letter is called by its name. -/
theorem Calls.of_letterless (h : Calls verb call flag value?) (hletter : flag.letter? = none) :
    call = value?.elim flag.called flag.calledWith := by
  cases h with
  | name hmem => rfl
  | nameWith hmem value => rfl
  | letter hmem hc hrest =>
    obtain ⟨c, hc, -⟩ := hc
    exact absurd hc (by simp [hletter])

theorem Calls.eq_called_iff (h : Calls verb call other value?) (hmem : flag ∈ verb.flags)
    (hletter : flag.letter? = none) : call = flag.called ↔ other = flag ∧ value? = none := by
  constructor
  · rintro rfl
    exact h.inj (.name hmem)
  · rintro ⟨rfl, rfl⟩
    exact h.of_letterless hletter

theorem Calls.eq_calledWith_iff (h : Calls verb call other value?) (hmem : flag ∈ verb.flags)
    (hletter : flag.letter? = none) :
    call = flag.calledWith value ↔ other = flag ∧ value? = some value := by
  constructor
  · rintro rfl
    exact h.inj (.nameWith hmem value)
  · rintro ⟨rfl, rfl⟩
    exact h.of_letterless hletter

end Calling

/-! ## 3. Settings -/

/-- A list of arguments spells the settings of flags, one after another.  Two dashes may end it. -/
inductive Spells (verb : Verb) : List (List UInt8) → List (Flag × List UInt8) → Prop
  | nothing : Spells verb [] []
  | dashes : Spells verb [[dash, dash]] []
  | apart {call value : List UInt8} {flag : Flag} {rest : List (List UInt8)}
      {settings : List (Flag × List UInt8)} (hcall : Calls verb call flag none)
      (htakes : flag.takesValue = true) (hvalue : IsWord value)
      (hrest : Spells verb rest settings) :
      Spells verb (call :: value :: rest) ((flag, value) :: settings)
  | joined {call value : List UInt8} {flag : Flag} {rest : List (List UInt8)}
      {settings : List (Flag × List UInt8)} (hcall : Calls verb call flag (some value))
      (htakes : flag.takesValue = true) (hrest : Spells verb rest settings) :
      Spells verb (call :: rest) ((flag, value) :: settings)
  | switch {call : List UInt8} {flag : Flag} {rest : List (List UInt8)}
      {settings : List (Flag × List UInt8)} (hcall : Calls verb call flag none)
      (htakes : flag.takesValue = false) (hrest : Spells verb rest settings) :
      Spells verb (call :: rest) ((flag, []) :: settings)

/-- Makes settings one after another. -/
def Given.setAll (given : Given) (settings : List (Flag × List UInt8)) : Option Given :=
  settings.foldlM (fun given setting => given.set setting.1 setting.2) given

section Settings

variable {verb : Verb} {given result : Given} {arguments : List (List UInt8)}
  {settings : List (Flag × List UInt8)}

theorem Given.setAll_cons_eq_some_iff {flag : Flag} {value : List UInt8} :
    given.setAll ((flag, value) :: settings) = some result ↔
      ∃ next, given.set flag value = some next ∧ next.setAll settings = some result :=
  Option.bind_eq_some_iff

/-- What is read was spelled. -/
theorem spells_of_readFlags (h : readFlags verb given arguments = .ok result) :
    ∃ settings, Spells verb arguments settings ∧ given.setAll settings = some result := by
  -- Of all the ways that reading goes, five do not end in a refusal.
  fun_induction readFlags verb given arguments with
  | case1 given =>
    obtain rfl := Except.ok.inj h
    exact ⟨[], .nothing, rfl⟩
  | case2 given call argument hform =>
    obtain rfl := Except.ok.inj h
    obtain rfl := Argument.ofBytes_eq_dashes_iff.mp hform
    exact ⟨[], .dashes, rfl⟩
  | case6 given call rest argument hform hasked flag htakes value next hset hflag ih =>
    obtain ⟨settings, hspells, hall⟩ := ih h
    exact ⟨(flag, value) :: settings, .joined (flagOf?_eq_some_iff.mp hflag) htakes hspells,
      Given.setAll_cons_eq_some_iff.mpr ⟨next, hset, hall⟩⟩
  | case9 given call argument hform hasked flag htakes word rest value hword next hset hflag ih =>
    obtain ⟨settings, hspells, hall⟩ := ih h
    obtain ⟨rfl, hvalue⟩ := Argument.ofBytes_eq_word_iff.mp hword
    exact ⟨(flag, value) :: settings, .apart (flagOf?_eq_some_iff.mp hflag) htakes hvalue hspells,
      Given.setAll_cons_eq_some_iff.mpr ⟨next, hset, hall⟩⟩
  | case13 given call rest argument hform hasked flag value? hflag htakes hvalue next hset ih =>
    obtain ⟨settings, hspells, hall⟩ := ih h
    obtain rfl := Option.not_isSome_iff_eq_none.mp hvalue
    have hswitch : flag.takesValue = false := Bool.eq_false_iff.mpr htakes
    exact ⟨(flag, []) :: settings, .switch (flagOf?_eq_some_iff.mp hflag) hswitch hspells,
      Given.setAll_cons_eq_some_iff.mpr ⟨next, hset, hall⟩⟩
  | _ => exact absurd h (by simp)

/-- What is spelled is read, if the settings can be made. -/
theorem readFlags_of_spells (h : Spells verb arguments settings)
    (hall : given.setAll settings = some result) : readFlags verb given arguments = .ok result := by
  induction h generalizing given with
  | nothing =>
    obtain rfl := Option.some.inj hall
    rw [readFlags]
  | dashes =>
    obtain rfl := Option.some.inj hall
    rw [readFlags]
    rfl
  | apart hcall htakes hvalue hrest ih =>
    obtain ⟨next, hset, hnext⟩ := Given.setAll_cons_eq_some_iff.mp hall
    obtain ⟨hform, hasked, hflag⟩ := hcall.is_read
    rw [readFlags]
    simp only [if_neg hform, hasked, hflag, htakes, if_true, Argument.ofBytes_word hvalue, hset]
    exact ih hnext
  | joined hcall htakes hrest ih =>
    obtain ⟨next, hset, hnext⟩ := Given.setAll_cons_eq_some_iff.mp hall
    obtain ⟨hform, hasked, hflag⟩ := hcall.is_read
    rw [readFlags]
    simp only [if_neg hform, hasked, hflag, htakes, if_true, hset]
    exact ih hnext
  | switch hcall htakes hrest ih =>
    obtain ⟨next, hset, hnext⟩ := Given.setAll_cons_eq_some_iff.mp hall
    obtain ⟨hform, hasked, hflag⟩ := hcall.is_read
    rw [readFlags]
    simp only [if_neg hform, hasked, hflag, htakes, hset]
    exact ih hnext

/-- **The flags of a command are read from the arguments that spell settings, and from no others.**
Each setting has to be one that can be made after those before it. -/
theorem readFlags_eq_ok_iff : readFlags verb given arguments = .ok result ↔
    ∃ settings, Spells verb arguments settings ∧ given.setAll settings = some result := by
  constructor
  · exact spells_of_readFlags
  · rintro ⟨settings, hspells, hall⟩
    exact readFlags_of_spells hspells hall

/-! ## 4. Settings on the arguments -/

/-- The arguments give this value to a flag by its name, joined or apart. -/
def Gives (arguments : List (List UInt8)) (flag : Flag) (value : List UInt8) : Prop :=
  flag.calledWith value ∈ arguments ∨ [flag.called, value] <:+: arguments

variable {first value : List UInt8} {rest : List (List UInt8)} {flag : Flag}

theorem gives_cons : Gives (first :: rest) flag value ↔
    first = flag.calledWith value ∨ (first = flag.called ∧ rest.head? = some value) ∨
      Gives rest flag value := by
  have hnext : [value] <+: rest ↔ rest.head? = some value := by
    cases rest with
    | nil => simp
    | cons next more => simp [eq_comm]
  rw [Gives, Gives, List.mem_cons, List.infix_cons_iff, List.cons_prefix_cons, hnext,
    eq_comm (a := flag.called), eq_comm (a := flag.calledWith value), or_assoc]
  exact or_congr_right or_left_comm

/-- An argument that does not call the flag gives it nothing. -/
theorem gives_cons_of_not_calls (hmem : flag ∈ verb.flags)
    (hno : ∀ value?, ¬ Calls verb first flag value?) :
    Gives (first :: rest) flag value ↔ Gives rest flag value := by
  have hname : first ≠ flag.called := by
    rintro rfl
    exact hno none (.name hmem)
  have hwith : first ≠ flag.calledWith value := by
    rintro rfl
    exact hno (some value) (.nameWith hmem value)
  rw [gives_cons]
  simp only [hname, hwith, false_and, false_or]

theorem gives_cons_of_isWord (hword : IsWord first) (hmem : flag ∈ verb.flags) :
    Gives (first :: rest) flag value ↔ Gives rest flag value :=
  gives_cons_of_not_calls hmem fun _ hcall => hcall.not_isWord hword

/-- **What is set can be seen on the arguments.**  A flag without a letter is set to a value when
the arguments hold its name and the value joined, or one right before the other. -/
theorem Spells.mem_iff_gives (h : Spells verb arguments settings) (hmem : flag ∈ verb.flags)
    (hletter : flag.letter? = none) (htakes : flag.takesValue = true) :
    (flag, value) ∈ settings ↔ Gives arguments flag value := by
  induction h with
  | nothing => simp [Gives]
  | dashes =>
    rw [gives_cons_of_not_calls hmem fun _ => not_calls_dashes]
    simp [Gives]
  | apart hcall hother hvalue hrest ih =>
    rw [gives_cons, gives_cons_of_isWord hvalue hmem, hcall.eq_called_iff hmem hletter,
      hcall.eq_calledWith_iff hmem hletter, List.mem_cons, ih, Prod.mk.injEq, List.head?_cons]
    simp [eq_comm]
  | joined hcall hother hrest ih =>
    rw [gives_cons, hcall.eq_called_iff hmem hletter, hcall.eq_calledWith_iff hmem hletter,
      List.mem_cons, ih, Prod.mk.injEq]
    simp [eq_comm]
  | @switch call other rest settings hcall hother hrest ih =>
    have hno : ∀ value?, ¬ Calls verb call flag value? := by
      intro value? hcalls
      obtain ⟨rfl, -⟩ := hcall.inj hcalls
      exact absurd htakes (by simp [hother])
    have hflag : flag ≠ other := by
      rintro rfl
      exact hno none hcall
    rw [gives_cons_of_not_calls hmem hno, List.mem_cons, ih, Prod.mk.injEq]
    simp only [hflag, false_and, false_or]

end Settings

/-! ## 5. Command lines -/

section Lines

variable {verb : Verb} {arguments : List (List UInt8)} {invocation : Invocation}

/-- The name of a command is a word, and it asks for nothing. -/
theorem Verb.isWord_name (verb : Verb) : IsWord (Utf8.encode verb.name) := by
  cases verb <;> exact .inl (by decide)

theorem Verb.named?_eq_some_iff {name : List UInt8} :
    Verb.named? name = some verb ↔ name = Utf8.encode verb.name := by
  constructor
  · intro h
    have hname := List.find?_some h
    exact (beq_iff_eq.mp hname).symm
  · rintro rfl
    cases verb <;> decide

/-- **A command line is the name of a command and what spells its settings.**  It is accepted when
the settings can be made and are enough for the command. -/
theorem parse_eq_ok_iff : Invocation.parse arguments = .ok invocation ↔
    ∃ verb rest settings given, arguments = Utf8.encode verb.name :: rest ∧
      Spells verb rest settings ∧ Given.nothing.setAll settings = some given ∧
      Invocation.ofGiven? verb given = some invocation := by
  constructor
  · intro h
    rcases arguments with _ | ⟨first, rest⟩
    · exact absurd h (by simp [Invocation.parse])
    rw [Invocation.parse] at h
    split at h
    · exact absurd h (by simp)
    split at h
    · split at h <;> exact absurd h (by simp)
    · rename_i verb hverb
      split at h
      · exact absurd h (by simp)
      · rename_i given hgiven
        split at h
        · rename_i found hfound
          obtain rfl := Except.ok.inj h
          obtain rfl := Verb.named?_eq_some_iff.mp hverb
          obtain ⟨settings, hspells, hall⟩ := readFlags_eq_ok_iff.mp hgiven
          exact ⟨verb, rest, settings, given, rfl, hspells, hall, hfound⟩
        · exact absurd h (by simp)
  · rintro ⟨verb, rest, settings, given, rfl, hspells, hall, hfound⟩
    have hverb : Verb.named? (Utf8.encode verb.name) = some verb := Verb.named?_eq_some_iff.mpr rfl
    have hread := readFlags_of_spells hspells hall
    rw [Invocation.parse, Argument.ofBytes_word verb.isWord_name]
    simp only [asked?, hverb, hread, hfound]

end Lines

end Command
end RegionalDial
