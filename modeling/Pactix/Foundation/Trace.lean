import Mathlib.Data.List.Forall2

/-!
# Traces of sequential calls

Calls are performed one after the other on a store; a trace lists what each of them
answers and the store it leaves.  The rules below carry a relation that may speak about
the calls still to come.
-/

namespace Pactix.Foundation

variable {Call Answer Store OtherAnswer OtherStore : Type}

/-- The answer to each call, with the store after it. -/
def trace (perform : Call → Store → Answer × Store) :
    List Call → Store → List (Answer × Store)
  | [], _ => []
  | call :: calls, store =>
      let reached := perform call store
      reached :: trace perform calls reached.2

section

variable (perform : Call → Store → Answer × Store)
  (other : Call → OtherStore → OtherAnswer × OtherStore)

@[simp] theorem trace_nil (store : Store) : trace perform [] store = [] := rfl

@[simp] theorem trace_cons (call : Call) (calls : List Call) (store : Store) :
    trace perform (call :: calls) store =
      perform call store :: trace perform calls (perform call store).2 := rfl

end

variable {perform : Call → Store → Answer × Store}
  {other : Call → OtherStore → OtherAnswer × OtherStore}

/-- Two traces of the same calls agree when every call keeps the stores related. -/
theorem trace_lockstep {R : List Call → Store → OtherStore → Prop}
    {Agree : Answer × Store → OtherAnswer × OtherStore → Prop}
    (preserved : ∀ {call calls left right}, R (call :: calls) left right →
      Agree (perform call left) (other call right) ∧
        R calls (perform call left).2 (other call right).2)
    {calls : List Call} {left : Store} {right : OtherStore}
    (initially : R calls left right) :
    List.Forall₂ Agree (trace perform calls left) (trace other calls right) := by
  induction calls generalizing left right with
  | nil => exact .nil
  | cons call calls ih =>
      obtain ⟨agree, after⟩ := preserved initially
      exact .cons agree (ih after)

end Pactix.Foundation
