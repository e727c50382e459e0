/-!
# Sequential programs with suspended calls

A program is a tree of calls: at each call it is suspended until an answer comes
back.  Coroutines that await at every outside operation have this form, and one
tree serves both readings of such a coroutine: executed alone, or interleaved
with others call by call.
-/

namespace Pactix.Foundation

/-- A program that issues calls and ends with a result. -/
inductive Program (Call : Type) (Answer : Call → Type) (Result : Type) where
  | done (result : Result)
  | call (request : Call) (resume : Answer request → Program Call Answer Result)

/-- A call that has been performed: its position in the execution, the request,
and the answer it received. -/
structure Performed (Call : Type) (Answer : Call → Type) where
  position : Nat
  request : Call
  answer : Answer request

/-- What an execution leaves behind. -/
structure Transcript (Call : Type) (Answer : Call → Type) (Store Result : Type) where
  result : Result
  store : Store
  performed : List (Performed Call Answer)

namespace Program

variable {Call : Type} {Answer : Call → Type} {Store Result Next : Type}

/-- Execute a program alone.  The interpretation of a call may depend on its
position, which stands for whatever changes between two calls. -/
def execute (interpret : Nat → (request : Call) → Store → Answer request × Store) :
    Program Call Answer Result → Nat → Store → Transcript Call Answer Store Result
  | .done result, _, store => ⟨result, store, []⟩
  | .call request resume, position, store =>
      let (answer, store) := interpret position request store
      let rest := execute interpret (resume answer) (position + 1) store
      { rest with performed := ⟨position, request, answer⟩ :: rest.performed }

section Execute

variable (interpret : Nat → (request : Call) → Store → Answer request × Store)

@[simp] theorem execute_done (result : Result) (position : Nat) (store : Store) :
    (done result : Program Call Answer Result).execute interpret position store =
      ⟨result, store, []⟩ := rfl

@[simp] theorem execute_call (request : Call)
    (resume : Answer request → Program Call Answer Result)
    (position : Nat) (store : Store) :
    execute interpret (.call request resume) position store =
      let step := interpret position request store
      let rest := execute interpret (resume step.1) (position + 1) step.2
      { rest with performed := ⟨position, request, step.1⟩ :: rest.performed } := rfl

variable {interpret} in
/-- Only the calls that are performed matter. -/
theorem execute_congr {other : Nat → (request : Call) → Store → Answer request × Store}
    {program : Program Call Answer Result} {position : Nat} {store : Store}
    (same : ∀ call ∈ (program.execute interpret position store).performed, ∀ store,
      other call.position call.request store = interpret call.position call.request store) :
    program.execute other position store = program.execute interpret position store := by
  induction program generalizing position store with
  | done result => rfl
  | call request resume ih =>
      have first : other position request store = interpret position request store :=
        same _ List.mem_cons_self store
      have rest := ih _ fun call performed => same call (List.mem_cons_of_mem _ performed)
      simp only [execute_call, first, rest]

end Execute

end Program

end Pactix.Foundation
