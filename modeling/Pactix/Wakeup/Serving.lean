import Pactix.Wakeup.Signals
import Pactix.Worker.Sessions

/-!
# The loop and its worker

`WakeupRunner.run` with the table that its passes work on.  The loop's worker is one of many:
it begins a pass when `_drain` calls `run_once`, and `_drain` goes on with the summary that the
pass has returned.
-/

namespace Pactix.Wakeup

open Foundation (Machine Exchange Program Protocol)
open Worker (Answer Call Context Pass Service)

variable {Member Row Ask Summary Arrival Receipt Body : Type} {Reply : Ask → Type}

structure Serving (Member Row Ask Summary Arrival Receipt : Type) (Reply : Ask → Type) where
  loop : State
  workers : Worker.State Member Row Ask Summary Arrival Receipt Reply

/-- What can happen next: to the loop, or to the table and the workers. -/
inductive ServingLabel (Member Row Ask Arrival : Type) (Reply : Ask → Type) where
  | loop (label : Label)
  | workers (label : Worker.Label Member Row Ask Arrival Reply)

/-- The loop is in `_drain`. -/
def Phase.drains : Phase → Bool
  | passing _ _ => true
  | _ => false

/-- What `_drain` reads from the summary of a pass. -/
def Label.count : Label → Option Nat
  | returned claimed => some claimed
  | _ => none

/-- The loop calls `run_once` between the two states. -/
def starts (before after : State) : Bool :=
  decide (before.history.count .pass < after.history.count .pass)

namespace Serving

def initial (runner : WakeupRunner) (clock : Int) :
    Serving Member Row Ask Summary Arrival Receipt Reply where
  loop := .initial runner
  workers := .initial clock

/-- The summary that the pass has returned. -/
def returned (own : Member) (state : Serving Member Row Ask Summary Arrival Receipt Reply) :
    Option Summary :=
  match (state.workers.process own).program with
  | some (.done (.ok summary)) => some summary
  | _ => none

section Step

variable [DecidableEq Member] (runner : WakeupRunner)
variable (service : Service Member Row Ask Summary Arrival Receipt Body Reply)
variable (own : Member) (claimed : Summary → Nat)

/-- The loop's worker begins a pass with the loop, and has none outside of `_drain`. -/
def accompany (before after : State)
    (workers : Worker.State Member Row Ask Summary Arrival Receipt Reply) :
    Option (Worker.State Member Row Ask Summary Arrival Receipt Reply) :=
  if starts before after then Worker.step service workers (.spawn own)
  else if before.phase.drains && !after.phase.drains then
    Worker.step service workers (.crash own)
  else some workers

/-- The transition function. -/
def step (state : Serving Member Row Ask Summary Arrival Receipt Reply) :
    ServingLabel Member Row Ask Arrival Reply →
      Option (Serving Member Row Ask Summary Arrival Receipt Reply)
  | .loop label =>
      if ∀ count ∈ label.count, (state.returned own).map claimed = some count then
        (Wakeup.step runner state.loop label).bind fun loop =>
          (accompany service own state.loop loop state.workers).map fun workers =>
            { loop, workers }
      else
        none
  | .workers label =>
      match label with
      | .spawn worker | .crash worker =>
          if worker = own then none
          else (Worker.step service state.workers label).map ({ state with workers := · })
      | _ => (Worker.step service state.workers label).map ({ state with workers := · })

/-- The machine of a loop and the workers on its table. -/
def machine : Machine (Serving Member Row Ask Summary Arrival Receipt Reply)
    (ServingLabel Member Row Ask Arrival Reply) := ⟨step runner service own claimed⟩

/-- What a step can be. -/
inductive Stepped (state : Serving Member Row Ask Summary Arrival Receipt Reply) :
    ServingLabel Member Row Ask Arrival Reply →
      Serving Member Row Ask Summary Arrival Receipt Reply → Prop where
  | loop (label : Label) (loop : State)
      (workers : Worker.State Member Row Ask Summary Arrival Receipt Reply)
      (agrees : ∀ count ∈ label.count, (state.returned own).map claimed = some count)
      (stepped : Wakeup.step runner state.loop label = some loop)
      (accompanied : accompany service own state.loop loop state.workers = some workers) :
      Stepped state (.loop label) { loop, workers }
  | workers (label : Worker.Label Member Row Ask Arrival Reply)
      (workers : Worker.State Member Row Ask Summary Arrival Receipt Reply)
      (others : label ≠ .spawn own ∧ label ≠ .crash own)
      (stepped : Worker.step service state.workers label = some workers) :
      Stepped state (.workers label) { state with workers }

variable {runner service own claimed} in
theorem stepped_of_step {state after : Serving Member Row Ask Summary Arrival Receipt Reply}
    {label : ServingLabel Member Row Ask Arrival Reply}
    (stepped : step runner service own claimed state label = some after) :
    Stepped runner service own claimed state label after := by
  cases label with
  | loop label =>
      simp only [step] at stepped
      split at stepped
      next agrees =>
        obtain ⟨loop, looped, rest⟩ := Option.bind_eq_some_iff.mp stepped
        obtain ⟨workers, accompanied, rfl⟩ := Option.map_eq_some_iff.mp rest
        exact .loop label loop workers agrees looped accompanied
      next => cases stepped
  | workers label =>
      cases label with
      | receive arrival =>
          obtain ⟨workers, worked, rfl⟩ := Option.map_eq_some_iff.mp stepped
          exact .workers _ workers ⟨nofun, nofun⟩ worked
      | act worker context =>
          obtain ⟨workers, worked, rfl⟩ := Option.map_eq_some_iff.mp stepped
          exact .workers _ workers ⟨nofun, nofun⟩ worked
      | spawn worker | crash worker =>
          simp only [step] at stepped
          split at stepped
          next => cases stepped
          next other =>
            obtain ⟨workers, worked, rfl⟩ := Option.map_eq_some_iff.mp stepped
            exact .workers _ workers (by simp [other]) worked

end Step

end Serving

/-! ## What is observed -/

/-- A claim of the loop's worker: the table that it has met, and how many rows it has got. -/
structure Survey (Row : Type) where
  query : ClaimQuery
  now : DateTime
  /-- The rows that other transactions had locked. -/
  locked : UUID → Bool
  table : List Row
  claimed : Nat

inductive Occurrence (Row : Type) where
  /-- A signal, and the rows that are committed by then. -/
  | signal (source : Source) (table : List Row)
  | pass
  /-- `_drain` returns after its last pass, though that pass has claimed rows. -/
  | exhausted
  | survey (survey : Survey Row)

section Occurrences

variable [DecidableEq Member] (runner : WakeupRunner)
variable (service : Service Member Row Ask Summary Arrival Receipt Body Reply) (own : Member)

/-- What is noted of a step. -/
def Serving.occurrences (state : Serving Member Row Ask Summary Arrival Receipt Reply) :
    ServingLabel Member Row Ask Arrival Reply → List (Occurrence Row)
  | .loop label =>
      match Wakeup.step runner state.loop label with
      | none => []
      | some loop =>
          if starts state.loop loop then [.pass]
          else
            match label with
            | .signal source => [.signal source state.workers.table]
            | .returned claimed => if claimed = 0 then [] else [.exhausted]
            | _ => []
  | .workers (.act worker context) =>
      if worker = own then
        match state.workers.request own with
        | some (.reclaimAndClaim query now) =>
            [.survey {
              query
              now
              locked := context.choices.locked
              table := state.workers.table
              claimed := (service.store.reclaimAndClaim worker query context.choices now
                state.workers.table).1.2.length }]
        | _ => []
      else []
  | .workers _ => []

end Occurrences

/-- The survey of the current pass. -/
def surveyed (notes : List (Occurrence Row)) : Option (Survey Row) :=
  notes.foldl (fun latest note =>
    match note with
    | .pass => none
    | .survey survey => some survey
    | .signal _ _ | .exhausted => latest) none

@[simp] theorem surveyed_pass (notes : List (Occurrence Row)) :
    surveyed (notes ++ [.pass]) = none := by
  simp [surveyed]

@[simp] theorem surveyed_survey (notes : List (Occurrence Row)) (survey : Survey Row) :
    surveyed (notes ++ [.survey survey]) = some survey := by
  simp [surveyed]

@[simp] theorem surveyed_signal (notes : List (Occurrence Row)) (source : Source)
    (table : List Row) : surveyed (notes ++ [.signal source table]) = surveyed notes := by
  simp [surveyed]

/-- What has been noted after a note. -/
def Since (notes : List (Occurrence Row)) (note : Occurrence Row)
    (later : List (Occurrence Row)) : Prop :=
  ∃ earlier, notes = earlier ++ note :: later

theorem since_append {notes added later : List (Occurrence Row)} {note : Occurrence Row} :
    Since (notes ++ added) note later ↔
      (∃ before, Since notes note before ∧ later = before ++ added) ∨ Since added note later := by
  constructor
  · rintro ⟨earlier, split⟩
    rcases List.append_eq_append_iff.mp split with ⟨rest, rfl, last⟩ | ⟨rest, rfl, last⟩
    · exact .inr ⟨rest, last⟩
    · cases rest with
      | nil => exact .inr ⟨[], last.symm⟩
      | cons first rest =>
          obtain ⟨rfl, rfl⟩ := List.cons.inj last
          exact .inl ⟨rest, ⟨earlier, rfl⟩, rfl⟩
  · rintro (⟨before, ⟨earlier, rfl⟩, rfl⟩ | ⟨earlier, rfl⟩)
    · exact ⟨earlier, by simp⟩
    · exact ⟨notes ++ earlier, by simp⟩

theorem since_nil {later : List (Occurrence Row)} {note : Occurrence Row} :
    ¬Since [] note later := by
  rintro ⟨earlier, split⟩
  simp at split

theorem since_single {first note : Occurrence Row} {later : List (Occurrence Row)} :
    Since [first] note later ↔ first = note ∧ later = [] := by
  constructor
  · rintro ⟨earlier, split⟩
    cases earlier with
    | nil => exact ⟨(List.cons.inj split).1, (List.cons.inj split).2.symm⟩
    | cons other earlier => simp at split
  · rintro ⟨rfl, rfl⟩
    exact ⟨[], rfl⟩

/-! ## What a summary says -/

/-- A pass claims once, and its summary says how many rows it has claimed. -/
inductive Counts {Ask Row : Type} {Reply : Ask → Type} :
    Option Nat → Exchange (Call Ask) (Answer Row Reply) → Option Nat → Prop where
  | claim (query : ClaimQuery) (now : DateTime) (answer : Nat × List Row) :
      Counts none ⟨.reclaimAndClaim query now, answer⟩ (some answer.2.length)
  | other (claimed : Option Nat) (exchange : Exchange (Call Ask) (Answer Row Reply))
      (quiet : ∀ query now, exchange.request ≠ .reclaimAndClaim query now) :
      Counts claimed exchange claimed

def counting (claimed : Summary → Nat) :
    Protocol (Call Ask) (Answer Row Reply) (Except Error Summary) (Option Nat) where
  Next := Counts
  Ends count result := ∀ summary, result = .ok summary → count = some (claimed summary)

end Pactix.Wakeup
