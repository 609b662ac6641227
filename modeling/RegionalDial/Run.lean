/-
# What happens, in order

A run tells what a computation does to the world and how it ends: spans of time pass, effects
take place, and at last there is a value, or nothing more ever happens.  It is plain data, so two
runs can be compared, and what a run did can be read off it.

A run can be cut off after a span of time.  What is ready exactly at the limit is in time, and
what would have happened later does not happen.  Limits are kept by a clock that ticks every
millisecond, so a limit that is over between two ticks ends at the later one.  The clock does not
wait for a limit to begin: where between two ticks it begins is known apart.
-/
import RegionalDial.Duration

namespace RegionalDial

/-- A run with effects of type `ε` and a value of type `α`. -/
inductive Run (ε α : Type) where
  | done (value : α)
  /-- Nothing more happens. -/
  | forever
  | wait (span : Duration) (rest : Run ε α)
  | effect (effect : ε) (rest : Run ε α)

/-- A run without effects: a value that is there at some time, or never. -/
abbrev Pending (α : Type) : Type := Run Empty α

namespace Run

variable {ε δ α β : Type}

/-- A run, and then one that depends on its value. -/
def bind : Run ε α → (α → Run ε β) → Run ε β
  | done value, next => next value
  | forever, _ => forever
  | wait span rest, next => wait span (rest.bind next)
  | effect e rest, next => effect e (rest.bind next)

def map (f : α → β) (run : Run ε α) : Run ε β := run.bind fun value => done (f value)

/-- The same run with its effects renamed. -/
def mapEffects (f : ε → δ) : Run ε α → Run δ α
  | done value => done value
  | forever => forever
  | wait span rest => wait span (rest.mapEffects f)
  | effect e rest => effect (f e) (rest.mapEffects f)

/-- A run without effects as one that could have some. -/
def ofPending (pending : Pending α) : Run ε α := pending.mapEffects Empty.elim

/-- The run up to a moment: its value if that is there by then. -/
def cutAt (moment : Duration) : Run ε α → Run ε (Option α)
  | done value => done (some value)
  | forever => wait moment (done none)
  | wait span rest =>
    if span ≤ moment then wait span (rest.cutAt ⟨moment.nanos - span.nanos⟩)
    else wait moment (done none)
  | effect e rest => effect e (rest.cutAt moment)

/-- The run up to the tick that ends a limit: its value if that is there in time.  The run and its
limit begin `since` after a tick. -/
def within (limit since : Duration) (run : Run ε α) : Run ε (Option α) :=
  run.cutAt (limit.toTick since)

/-- The run up to a limit, if there is one. -/
def withinOptional (limit : Option Duration) (since : Duration) (run : Run ε α) :
    Run ε (Option α) :=
  match limit with
  | some limit => run.within limit since
  | none => run.map some

/-- The effects, in order. -/
def effects : Run ε α → List ε
  | done _ => []
  | forever => []
  | wait _ rest => rest.effects
  | effect e rest => e :: rest.effects

/-- The value at the end, if there is an end. -/
def value? : Run ε α → Option α
  | done value => some value
  | forever => none
  | wait _ rest => rest.value?
  | effect _ rest => rest.value?

/-- The time that passes until the end. -/
def span : Run ε α → Duration
  | done _ => ⟨0⟩
  | forever => ⟨0⟩
  | wait span rest => ⟨span.nanos + rest.span.nanos⟩
  | effect _ rest => rest.span

/-- The run ends, and at this moment at the latest. -/
def EndsBy (moment : Duration) (run : Run ε α) : Prop :=
  run.value?.isSome = true ∧ run.span ≤ moment

instance (moment : Duration) (run : Run ε α) : Decidable (run.EndsBy moment) :=
  inferInstanceAs (Decidable (_ ∧ _))

/-! ## How the views follow the operations -/

theorem effects_bind (run : Run ε α) (next : α → Run ε β) :
    (run.bind next).effects =
      run.effects ++ ((run.value?.map fun value => (next value).effects).getD []) := by
  induction run with
  | done value => simp [bind, effects, value?]
  | forever => rfl
  | wait span rest ih => simpa [bind, effects, value?] using ih
  | effect e rest ih => simpa [bind, effects, value?] using ih

theorem value?_bind (run : Run ε α) (next : α → Run ε β) :
    (run.bind next).value? = run.value?.bind fun value => (next value).value? := by
  induction run with
  | done value => rfl
  | forever => rfl
  | wait span rest ih => simpa [bind, value?] using ih
  | effect e rest ih => simpa [bind, value?] using ih

@[simp] theorem effects_map (f : α → β) (run : Run ε α) : (run.map f).effects = run.effects := by
  rw [map, effects_bind]
  cases run.value? <;> simp [effects]

@[simp] theorem value?_map (f : α → β) (run : Run ε α) :
    (run.map f).value? = run.value?.map f := by
  rw [map, value?_bind]
  cases run.value? <;> rfl

/-- Cut off at a moment, a run always ends, with its value if that is there by then. -/
theorem value?_cutAt (moment : Duration) (run : Run ε α) :
    (run.cutAt moment).value? = some (run.value?.filter fun _ => decide (run.span ≤ moment)) := by
  induction run generalizing moment with
  | done value =>
    have h : (⟨0⟩ : Duration) ≤ moment := Nat.zero_le _
    simp [cutAt, value?, span, h, Option.filter]
  | forever => simp [cutAt, value?]
  | wait span rest ih =>
    unfold cutAt
    split
    · rename_i h
      have hspan : (rest.span ≤ ⟨moment.nanos - span.nanos⟩) ↔
          (wait span rest).span ≤ moment := by
        change rest.span.nanos ≤ moment.nanos - span.nanos ↔
          span.nanos + rest.span.nanos ≤ moment.nanos
        have hle : span.nanos ≤ moment.nanos := h
        omega
      simp only [value?, ih, hspan]
    · rename_i h
      have hlate : ¬ (wait span rest).span ≤ moment := by
        intro hle
        apply h
        change span.nanos ≤ moment.nanos
        change span.nanos + rest.span.nanos ≤ moment.nanos at hle
        omega
      cases h : rest.value? <;> simp [value?, h, hlate, Option.filter]
  | effect e rest ih => exact ih moment

/-- Under a limit a run always ends, with its value if that is there in time. -/
theorem value?_within (limit since : Duration) (run : Run ε α) :
    (run.within limit since).value? =
      some (run.value?.filter fun _ => decide (run.span ≤ limit.toTick since)) :=
  value?_cutAt _ _

/-- Under a limit, a value that comes in time is the value. -/
theorem value?_within_of_endsBy {limit since : Duration} {run : Run ε α} {value : α}
    (hvalue : run.value? = some value) (hends : run.EndsBy (limit.toTick since)) :
    (run.within limit since).value? = some (some value) := by
  rw [value?_within, hvalue]
  simp [Option.filter, hends.2]

/-- Under a limit, what does not come in time does not come. -/
theorem value?_within_of_not_endsBy {limit since : Duration} {run : Run ε α}
    (hlate : ¬ run.EndsBy (limit.toTick since)) :
    (run.within limit since).value? = some none := by
  rw [value?_within]
  cases hvalue : run.value? with
  | none => rfl
  | some value =>
    have hspan : ¬ run.span ≤ limit.toTick since := fun h => hlate ⟨by simp [hvalue], h⟩
    simp [Option.filter, hspan]

/-- What a cut-off run does, the run itself does first. -/
theorem effects_cutAt_isPrefix (moment : Duration) (run : Run ε α) :
    (run.cutAt moment).effects <+: run.effects := by
  induction run generalizing moment with
  | done value => exact List.prefix_rfl
  | forever => exact List.prefix_rfl
  | wait span rest ih =>
    unfold cutAt
    split
    · exact ih _
    · exact List.nil_prefix
  | effect e rest ih =>
    exact List.cons_prefix_cons.mpr ⟨rfl, ih moment⟩

/-- A run that ends in time does all it does. -/
theorem effects_cutAt_of_endsBy {moment : Duration} {run : Run ε α} (h : run.EndsBy moment) :
    (run.cutAt moment).effects = run.effects := by
  induction run generalizing moment with
  | done value => rfl
  | forever => exact absurd h.1 Bool.false_ne_true
  | wait span rest ih =>
    obtain ⟨hvalue, hspan⟩ := h
    change span.nanos + rest.span.nanos ≤ moment.nanos at hspan
    have hfirst : span ≤ moment := by
      change span.nanos ≤ moment.nanos
      omega
    have hrest : rest.EndsBy ⟨moment.nanos - span.nanos⟩ := by
      refine ⟨hvalue, ?_⟩
      change rest.span.nanos ≤ moment.nanos - span.nanos
      omega
    rw [cutAt, if_pos hfirst]
    exact ih hrest
  | effect e rest ih => exact congrArg (e :: ·) (ih h)

/-- What a run does under an optional limit, it does first without one. -/
theorem effects_withinOptional_isPrefix (limit : Option Duration) (since : Duration)
    (run : Run ε α) : (run.withinOptional limit since).effects <+: run.effects := by
  cases limit with
  | none =>
    have heffects : (run.withinOptional none since).effects = run.effects := effects_map some run
    exact heffects ▸ List.prefix_rfl
  | some limit => exact effects_cutAt_isPrefix _ run

@[simp] theorem effects_mapEffects (f : ε → δ) (run : Run ε α) :
    (run.mapEffects f).effects = run.effects.map f := by
  induction run <;> simp_all [mapEffects, effects]

@[simp] theorem value?_mapEffects (f : ε → δ) (run : Run ε α) :
    (run.mapEffects f).value? = run.value? := by
  induction run <;> simp_all [mapEffects, value?]

@[simp] theorem span_mapEffects (f : ε → δ) (run : Run ε α) :
    (run.mapEffects f).span = run.span := by
  induction run <;> simp_all [mapEffects, span]

@[simp] theorem endsBy_mapEffects (f : ε → δ) (moment : Duration) (run : Run ε α) :
    (run.mapEffects f).EndsBy moment ↔ run.EndsBy moment := by
  simp [EndsBy]

@[simp] theorem effects_ofPending (pending : Pending α) :
    (ofPending pending : Run ε α).effects = [] := by
  rw [ofPending, effects_mapEffects]
  cases pending.effects with
  | nil => rfl
  | cons e _ => exact e.elim

/-- A run that has no effects has none under a limit. -/
@[simp] theorem effects_withinOptional_ofPending (limit : Option Duration) (since : Duration)
    (pending : Pending α) :
    ((ofPending pending : Run ε α).withinOptional limit since).effects = [] := by
  have hprefix := effects_withinOptional_isPrefix limit since (ofPending pending : Run ε α)
  rw [effects_ofPending] at hprefix
  exact List.prefix_nil.mp hprefix

@[simp] theorem value?_ofPending (pending : Pending α) :
    (ofPending pending : Run ε α).value? = pending.value? :=
  value?_mapEffects _ _

/-! ## How the operations follow each other -/

variable {γ : Type}

theorem bind_assoc (run : Run ε α) (next : α → Run ε β) (last : β → Run ε γ) :
    (run.bind next).bind last = run.bind fun value => (next value).bind last := by
  induction run with
  | done value => rfl
  | forever => rfl
  | wait span rest ih => simpa [bind] using ih
  | effect e rest ih => simpa [bind] using ih

theorem map_bind (run : Run ε α) (next : α → Run ε β) (f : β → γ) :
    (run.bind next).map f = run.bind fun value => (next value).map f :=
  bind_assoc _ _ _

theorem bind_map (run : Run ε α) (f : α → β) (next : β → Run ε γ) :
    (run.map f).bind next = run.bind fun value => next (f value) :=
  bind_assoc _ _ _

theorem map_map (run : Run ε α) (f : α → β) (g : β → γ) :
    (run.map f).map g = run.map fun value => g (f value) :=
  bind_assoc _ _ _

/-- Two functions that can change places do so under a run. -/
theorem map_comm {f : α → β} {g : β → δ} {f' : γ → δ} {g' : α → γ}
    (h : ∀ value, g (f value) = f' (g' value)) (run : Run ε α) :
    (run.map f).map g = (run.map g').map f' := by
  simp only [map_map, h]

theorem mapEffects_map (run : Run ε α) (f : α → β) (g : ε → δ) :
    (run.map f).mapEffects g = (run.mapEffects g).map f := by
  induction run with
  | done value => rfl
  | forever => rfl
  | wait span rest ih => simpa [map, bind, mapEffects] using ih
  | effect e rest ih => simpa [map, bind, mapEffects] using ih

/-- A limit has no regard for the value. -/
theorem cutAt_map (run : Run ε α) (f : α → β) (moment : Duration) :
    (run.map f).cutAt moment = (run.cutAt moment).map (Option.map f) := by
  induction run generalizing moment with
  | done value => rfl
  | forever => rfl
  | wait span rest ih =>
    simp only [map, bind, cutAt] at ih ⊢
    split
    · simp only [bind, ih]
    · rfl
  | effect e rest ih =>
    simp only [map, bind, cutAt] at ih ⊢
    rw [ih]

/-- A limit has no regard for the effects either. -/
theorem cutAt_mapEffects (run : Run ε α) (f : ε → δ) (moment : Duration) :
    (run.mapEffects f).cutAt moment = (run.cutAt moment).mapEffects f := by
  induction run generalizing moment with
  | done value => rfl
  | forever => rfl
  | wait span rest ih =>
    simp only [mapEffects, cutAt, ih]
    split
    · rfl
    · rfl
  | effect e rest ih =>
    simp only [mapEffects, cutAt, ih]

theorem withinOptional_map (run : Run ε α) (f : α → β) (limit : Option Duration)
    (since : Duration) :
    (run.map f).withinOptional limit since =
      (run.withinOptional limit since).map (Option.map f) := by
  cases limit with
  | none =>
    have hvalue : (run.map f).map some = (run.map some).map (Option.map f) := by
      simp only [map_map, Option.map_some]
    exact hvalue
  | some limit => exact cutAt_map run f (limit.toTick since)

end Run
end RegionalDial
