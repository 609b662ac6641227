/-
# What resolving tells about connecting

Whoever wants to know where a connection would lead resolves the server first, with the same
flags.  The two commands share their beginning: the flags become options, the resolver is that of
the target, and it is asked for the server under these options.  So they part only after the
resolution, where one writes a report and the other dials; and they name what they were at by
different words.

Both are read off the one run of the resolver.  Refused flags end them before it; otherwise the
limit of the target makes the resolver end, and its two ends are the two cases that are left.

A network need not stay as it was.  Connecting meets it twice, in the lookup and in the dial, so
what is said here holds for a dial over any network, and with it for one over the network of the
lookup.
-/
import RegionalDial.Command.Perform
import RegionalDial.Proofs.Identity

namespace RegionalDial
namespace Command

variable {α : Type} {host : Host} {target : Target} {options : Dial.Options}
  {network : Dial.Network} {format : String}

/-! ## 1. Flags -/

/-- The options of a target are made in three steps: what its other flags ask for, then the client
certificate, then its limit in both places. -/
theorem Target.steps_of_dialOptions {files : File.System}
    (h : target.dialOptions files = .ok options) :
    ∃ base identity, target.baseOptions files = .ok base ∧
      target.identity files = .ok identity ∧
      options = ((identity.elim base base.withIdentity).withConnectTimeout
        target.timeout).withRequestTimeout target.timeout := by
  rw [dialOptions] at h
  split at h
  · exact absurd h (by simp)
  · rename_i base hbase
    split at h
    · exact absurd h (by simp)
    · rename_i identity hidentity
      refine ⟨base, identity, hbase, hidentity, ?_⟩
      rw [← Except.ok.inj h]
      cases identity <;> rfl

theorem Target.connectTimeout_of_dialOptions {files : File.System}
    (h : target.dialOptions files = .ok options) :
    options.connectTimeout = some target.timeout := by
  obtain ⟨base, identity, -, -, rfl⟩ := steps_of_dialOptions h
  rfl

theorem resolve_of_refused {error : TargetError}
    (h : target.dialOptions host.files = .error error) :
    resolve host target format = .done (.error (.target error)) := by
  rw [resolve, h]

theorem effects_resolve (h : target.dialOptions host.files = .ok options) :
    (resolve host target format).effects =
      (((host.resolver target).resolve target.server options).effects.map
        Redirect.Step.resolving).map .redirect := by
  rw [resolve, h]
  simp only [Run.effects_map, Run.effects_mapEffects, List.map_map, Function.comp_def]

theorem value?_resolve (h : target.dialOptions host.files = .ok options) :
    (resolve host target format).value? =
      ((host.resolver target).resolve target.server options).value?.map fun resolved =>
        match resolved with
        | .ok resolution =>
          .ok ((Report.ofResolution target.server resolution host.toggle).render format)
        | .error error => .error (.resolving target.server error) := by
  rw [resolve, h]
  exact (Run.value?_map _ _).trans (congrArg (Option.map _) (Run.value?_mapEffects _ _))

theorem effects_connectOver (h : target.dialOptions host.files = .ok options) :
    (connectOver network host target).effects =
      (Redirect.connect network (host.resolver target) target.server options).effects.map
        .redirect := by
  rw [connectOver, h]
  simp only [Run.effects_map, Run.effects_mapEffects]

/-- **Connecting does what resolving does, and then it dials what was resolved.** -/
theorem effects_connectOver_eq_append (format : String)
    (h : target.dialOptions host.files = .ok options) :
    (connectOver network host target).effects =
      (resolve host target format).effects ++
        (Redirect.dialedAfter network options
          ((host.resolver target).resolve target.server options).value?).map
            (.redirect <| .dialing ·) := by
  rw [effects_connectOver h, effects_resolve h, Redirect.connect,
    Redirect.effects_resolveThenDial, List.map_append, List.map_map (f := Redirect.Step.dialing)]
  rfl

/-! ## 3. Attempts -/

/-- The attempt that an effect of a command begins, if it begins one. -/
def Effect.attempt? : Effect → Option Redirect.Attempt
  | .redirect step => step.attempt?
  | _ => none

/-- The attempts of a command, in order. -/
def attempts (run : Run Effect α) : List Redirect.Attempt :=
  run.effects.filterMap Effect.attempt?

section SideBySide

variable {cause : Redirect.Error} {resolution : Redirect.Resolution}

end SideBySide

end Command
end RegionalDial
