import Mathlib.Logic.Relation

/-!
# Labelled machines and their paths

A machine is an executable step function whose label carries everything that the
machine itself does not decide.  Paths are taken under a permission, so that a
discipline on the environment is a predicate on single steps rather than a
second machine.
-/

namespace Pactix.Foundation

/-- An executable transition function.  `none` means that the labelled step is
not possible in the given state. -/
structure Machine (State Label : Type) where
  step : State → Label → Option State

namespace Machine

variable {State Label Abstract : Type}

/-- One step of the machine that the permission allows. -/
def Next (machine : Machine State Label) (permitted : State → Label → Prop)
    (before after : State) : Prop :=
  ∃ label, permitted before label ∧ machine.step before label = some after

/-- Finitely many permitted steps. -/
abbrev Path (machine : Machine State Label) (permitted : State → Label → Prop) :
    State → State → Prop :=
  Relation.ReflTransGen (machine.Next permitted)

/-- The permission that allows every step. -/
def Free (_ : State) (_ : Label) : Prop := True

instance (state : State) (label : Label) : Decidable (Free state label) :=
  isTrue trivial

theorem path_single {machine : Machine State Label}
    {permitted : State → Label → Prop} {before after : State} (label : Label)
    (allowed : permitted before label)
    (stepped : machine.step before label = some after) :
    machine.Path permitted before after :=
  .single ⟨label, allowed, stepped⟩

/-- A property that every permitted step preserves holds along every path. -/
theorem path_invariant {machine : Machine State Label}
    {permitted : State → Label → Prop} (Holds : State → Prop)
    (preserved : ∀ {before label after}, permitted before label →
      machine.step before label = some after → Holds before → Holds after)
    {start finish : State} (path : machine.Path permitted start finish)
    (initially : Holds start) : Holds finish := by
  induction path with
  | refl => exact initially
  | tail _ last ih =>
      obtain ⟨label, allowed, stepped⟩ := last
      exact preserved allowed stepped ih

/-- Weakening the permission keeps every path. -/
theorem path_mono {machine : Machine State Label}
    {strict loose : State → Label → Prop}
    (weaker : ∀ state label, strict state label → loose state label)
    {start finish : State} (path : machine.Path strict start finish) :
    machine.Path loose start finish :=
  path.lift id fun _ _ ⟨label, allowed, stepped⟩ =>
    ⟨label, weaker _ _ allowed, stepped⟩

/-- Forward simulation.  When every permitted step is answered by finitely many
steps of an abstract relation, so is every path. -/
theorem path_simulate {machine : Machine State Label}
    {permitted : State → Label → Prop}
    {abstractNext : Abstract → Abstract → Prop}
    {Simulates : State → Abstract → Prop}
    (answer : ∀ {before label after abstractBefore}, permitted before label →
      machine.step before label = some after → Simulates before abstractBefore →
      ∃ abstractAfter, Relation.ReflTransGen abstractNext abstractBefore abstractAfter ∧
        Simulates after abstractAfter)
    {start finish : State} {abstractStart : Abstract}
    (path : machine.Path permitted start finish)
    (initially : Simulates start abstractStart) :
    ∃ abstractFinish,
      Relation.ReflTransGen abstractNext abstractStart abstractFinish ∧
        Simulates finish abstractFinish := by
  induction path with
  | refl => exact ⟨abstractStart, .refl, initially⟩
  | tail _ last ih =>
      obtain ⟨label, allowed, stepped⟩ := last
      obtain ⟨abstractMiddle, earlier, simulated⟩ := ih
      obtain ⟨abstractFinish, later, simulatedAfter⟩ :=
        answer allowed stepped simulated
      exact ⟨abstractFinish, earlier.trans later, simulatedAfter⟩

/-- What a part of the machine goes through is a path of the part, when every step of the
machine is one for the part. -/
theorem path_project {Part PartLabel : Type} {machine : Machine State Label}
    {part : Machine Part PartLabel} {permitted : State → Label → Prop}
    {partPermitted : Part → PartLabel → Prop} (view : State → Part)
    (project : ∀ {before label after}, permitted before label →
      machine.step before label = some after →
      part.Path partPermitted (view before) (view after))
    {start finish : State} (path : machine.Path permitted start finish) :
    part.Path partPermitted (view start) (view finish) := by
  induction path with
  | refl => exact .refl
  | tail _ last ih =>
      obtain ⟨label, allowed, stepped⟩ := last
      exact ih.trans (project allowed stepped)

/-- Replay a list of labels, checking the permission before every step. -/
def replay (machine : Machine State Label) (permitted : State → Label → Prop)
    [∀ state label, Decidable (permitted state label)] :
    State → List Label → Option State
  | state, [] => some state
  | state, label :: labels =>
      if permitted state label then
        match machine.step state label with
        | some next => machine.replay permitted next labels
        | none => none
      else
        none

theorem replay_cons_eq_some {machine : Machine State Label}
    {permitted : State → Label → Prop}
    [∀ state label, Decidable (permitted state label)]
    {label : Label} {labels : List Label} {start finish : State} :
    machine.replay permitted start (label :: labels) = some finish ↔
      permitted start label ∧ ∃ next, machine.step start label = some next ∧
        machine.replay permitted next labels = some finish := by
  rw [replay]
  split
  next allowed => cases machine.step start label <;> simp [allowed]
  next refused => simp [refused]

/-- A successful replay is a path. -/
theorem path_of_replay {machine : Machine State Label}
    {permitted : State → Label → Prop}
    [∀ state label, Decidable (permitted state label)]
    {labels : List Label} {start finish : State}
    (replayed : machine.replay permitted start labels = some finish) :
    machine.Path permitted start finish := by
  induction labels generalizing start with
  | nil =>
      simp only [replay, Option.some.injEq] at replayed
      exact replayed ▸ .refl
  | cons label labels ih =>
      obtain ⟨allowed, next, stepped, rest⟩ := replay_cons_eq_some.mp replayed
      exact .head ⟨label, allowed, stepped⟩ (ih rest)

/-- The state that a successful replay ends in is reachable. -/
theorem path_replay (machine : Machine State Label)
    (permitted : State → Label → Prop)
    [∀ state label, Decidable (permitted state label)]
    (start : State) (labels : List Label)
    (replayed : (machine.replay permitted start labels).isSome = true) :
    machine.Path permitted start ((machine.replay permitted start labels).get replayed) :=
  path_of_replay (Option.some_get replayed).symm

/-! ## Observed paths -/

section Observed

variable {Note : Type} (machine : Machine State Label) (permitted : State → Label → Prop)
variable (note : State → Label → List Note)

/-- A path, and what an observer has noted along it, in order. -/
inductive Observed (start : State) : List Note → State → Prop where
  | refl : Observed start [] start
  | tail {notes : List Note} {state after : State} (label : Label)
      (earlier : Observed start notes state) (allowed : permitted state label)
      (stepped : machine.step state label = some after) :
      Observed start (notes ++ note state label) after

variable {machine permitted note}

/-- A property of states and notes that every permitted step preserves holds along every
observed path. -/
theorem observed_invariant (Holds : List Note → State → Prop)
    (preserved : ∀ {notes state label after}, permitted state label →
      machine.step state label = some after → Holds notes state →
        Holds (notes ++ note state label) after)
    {start finish : State} {notes : List Note}
    (observed : Observed machine permitted note start notes finish)
    (initially : Holds [] start) : Holds notes finish := by
  induction observed with
  | refl => exact initially
  | tail label _ allowed stepped ih => exact preserved allowed stepped ih

/-- Replay a list of labels and take notes. -/
def replayNoting (machine : Machine State Label) (permitted : State → Label → Prop)
    (note : State → Label → List Note) [∀ state label, Decidable (permitted state label)]
    (notes : List Note) : State → List Label → Option (List Note × State)
  | state, [] => some (notes, state)
  | state, label :: labels =>
      if permitted state label then
        match machine.step state label with
        | some next => replayNoting machine permitted note (notes ++ note state label) next labels
        | none => none
      else
        none

/-- A successful replay is an observed path. -/
theorem observed_of_replay [∀ state label, Decidable (permitted state label)]
    {labels : List Label} {start state finish : State} {before notes : List Note}
    (earlier : Observed machine permitted note start before state)
    (replayed : machine.replayNoting permitted note before state labels = some (notes, finish)) :
    Observed machine permitted note start notes finish := by
  induction labels generalizing before state with
  | nil =>
      simp only [replayNoting, Option.some.injEq, Prod.mk.injEq] at replayed
      obtain ⟨rfl, rfl⟩ := replayed
      exact earlier
  | cons label labels ih =>
      simp only [replayNoting] at replayed
      split at replayed
      next allowed =>
        split at replayed
        next next stepped => exact ih (.tail label earlier allowed stepped) replayed
        next => cases replayed
      next => cases replayed

/-- What a successful replay has noted, and the state that it ends in. -/
theorem observed_replay (machine : Machine State Label) (permitted : State → Label → Prop)
    (note : State → Label → List Note) [∀ state label, Decidable (permitted state label)]
    (start : State) (labels : List Label)
    (replayed : (machine.replayNoting permitted note [] start labels).isSome = true) :
    let outcome := (machine.replayNoting permitted note [] start labels).get replayed
    Observed machine permitted note start outcome.1 outcome.2 :=
  observed_of_replay .refl (Option.some_get replayed).symm

end Observed

end Machine

end Pactix.Foundation
