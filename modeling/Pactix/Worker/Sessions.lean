import Pactix.Foundation.Protocol
import Pactix.Worker.System

/-!
# The calls of one pass

An observer of a run notes which worker begins a pass and which calls are performed.  What it
has noted of one worker since the worker began is what that worker's program has done.
-/

namespace Pactix.Worker

open Foundation

variable {Worker Row Ask Summary Arrival Receipt Body : Type} {Reply : Ask → Type}

/-- What is noted about a worker. -/
inductive Note (Worker Row Ask : Type) (Reply : Ask → Type) where
  | began (worker : Worker)
  | performed (worker : Worker) (exchange : Exchange (Call Ask) (Answer Row Reply))

/-- The notes that a step leaves. -/
def Service.log (service : Service Worker Row Ask Summary Arrival Receipt Body Reply)
    (state : State Worker Row Ask Summary Arrival Receipt Reply) :
    Label Worker Row Ask Arrival Reply → List (Note Worker Row Ask Reply)
  | .receive _ => []
  | .spawn worker => [.began worker]
  | .crash _ => []
  | .act worker context =>
      match (state.process worker).program with
      | some (.call request _) =>
          [.performed worker
            ⟨request, (service.store.perform worker context request state.table).1⟩]
      | _ => []

variable [DecidableEq Worker]

/-- The calls of a worker's pass, with one more note. -/
def extend (worker : Worker) (calls : List (Exchange (Call Ask) (Answer Row Reply))) :
    Note Worker Row Ask Reply → List (Exchange (Call Ask) (Answer Row Reply))
  | .began other => if other = worker then [] else calls
  | .performed other exchange => if other = worker then calls ++ [exchange] else calls

/-- The calls that a worker has performed since it last began a pass. -/
def session (worker : Worker) (notes : List (Note Worker Row Ask Reply)) :
    List (Exchange (Call Ask) (Answer Row Reply)) :=
  notes.foldl (extend worker) []

@[simp] theorem session_append (worker : Worker) (notes later : List (Note Worker Row Ask Reply)) :
    session worker (notes ++ later) = later.foldl (extend worker) (session worker notes) :=
  List.foldl_append

variable {service : Service Worker Row Ask Summary Arrival Receipt Body Reply}

/-- A run of the machine, with the notes taken along it. -/
abbrev Logged (service : Service Worker Row Ask Summary Arrival Receipt Body Reply) (clock : Int)
    (notes : List (Note Worker Row Ask Reply))
    (state : State Worker Row Ask Summary Arrival Receipt Reply) : Prop :=
  Machine.Observed (machine service) Machine.Free service.log (.initial clock) notes state

/-- A worker that has acted goes on with the answer. -/
theorem program_act (state : State Worker Row Ask Summary Arrival Receipt Reply)
    (worker : Worker) (context : Context Row Ask Reply) (request : Call Ask)
    (resume : Answer Row Reply request → Pass Row Ask Reply Summary) :
    ((act service state worker context request resume).process worker).program =
      some (resume (service.store.perform worker context request state.table).1) := by
  simp only [act, if_true]
  cases request <;> rfl

/-- The programs of the others are as they were. -/
theorem program_act_of_ne (state : State Worker Row Ask Summary Arrival Receipt Reply)
    {worker other : Worker} (different : other ≠ worker) (context : Context Row Ask Reply)
    (request : Call Ask) (resume : Answer Row Reply request → Pass Row Ask Reply Summary) :
    ((act service state worker context request resume).process other).program =
      (state.process other).program := by
  simp only [act, different, if_false]
  cases request <;> rfl

/-- What is left of a worker's program is what its calls have left of the pass. -/
theorem reaches_session {clock : Int} {notes : List (Note Worker Row Ask Reply)}
    {state : State Worker Row Ask Summary Arrival Receipt Reply}
    (logged : Logged service clock notes state) :
    ∀ {worker program}, (state.process worker).program = some program →
      (service.runOnce worker).Reaches (session worker notes) program := by
  induction logged with
  | refl =>
      intro worker program running
      cases running
  | @tail notes before after label _ _ stepped ih =>
      have stepped : step service before label = some after := stepped
      intro worker program running
      rw [session_append]
      cases stepped_of_step stepped with
      | receive | reject => exact ih running
      | crash actor =>
          by_cases own : worker = actor
          · subst own
            simp at running
          · simp only [Function.update_of_ne own] at running
            exact ih running
      | spawn actor =>
          by_cases own : worker = actor
          · subst own
            simp only [Function.update_self, Option.some.injEq] at running
            simp only [Service.log, List.foldl_cons, List.foldl_nil, extend, if_true]
            exact running ▸ .refl
          · simp only [Function.update_of_ne own] at running
            simp only [Service.log, List.foldl_cons, List.foldl_nil, extend, Ne.symm own,
              if_false]
            exact ih running
      | act actor context request resume suspended =>
          simp only [Service.log, suspended, List.foldl_cons, List.foldl_nil, extend]
          by_cases own : worker = actor
          · subst own
            rw [program_act, Option.some.injEq] at running
            rw [if_pos rfl, ← running]
            exact (ih suspended).tail _
          · rw [program_act_of_ne before own] at running
            rw [if_neg (Ne.symm own)]
            exact ih running

end Pactix.Worker
