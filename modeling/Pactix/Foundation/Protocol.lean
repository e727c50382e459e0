import Pactix.Foundation.Program

/-!
# Protocols of calls

A protocol says which calls a program may issue at which stage, and to which stage an answer
takes it.  A program that keeps to a protocol does so however its calls are interleaved with
those of others: at any time the calls that have been performed are a run of the protocol.
-/

namespace Pactix.Foundation

variable {Call : Type} {Answer : Call → Type} {Result Stage : Type}

/-- A call together with its answer. -/
structure Exchange (Call : Type) (Answer : Call → Type) where
  request : Call
  answer : Answer request

/-- The stages of a program, and what takes it from one to the next. -/
structure Protocol (Call : Type) (Answer : Call → Type) (Result Stage : Type) where
  Next : Stage → Exchange Call Answer → Stage → Prop
  /-- At which stage the program may end, and how. -/
  Ends : Stage → Result → Prop

namespace Program

/-- What is left of a program after some calls. -/
inductive Reaches (start : Program Call Answer Result) :
    List (Exchange Call Answer) → Program Call Answer Result → Prop where
  | refl : Reaches start [] start
  | tail {calls : List (Exchange Call Answer)} {request : Call}
      {resume : Answer request → Program Call Answer Result}
      (earlier : Reaches start calls (.call request resume)) (answer : Answer request) :
      Reaches start (calls ++ [⟨request, answer⟩]) (resume answer)

end Program

namespace Protocol

variable (protocol : Protocol Call Answer Result Stage)

/-- The calls take the protocol from one stage to another. -/
inductive Runs (start : Stage) : List (Exchange Call Answer) → Stage → Prop where
  | refl : Runs start [] start
  | tail {calls : List (Exchange Call Answer)} {before after : Stage}
      {exchange : Exchange Call Answer} (earlier : Runs start calls before)
      (next : protocol.Next before exchange after) : Runs start (calls ++ [exchange]) after

/-- From this stage on, the program keeps to the protocol, whatever it is answered. -/
def Keeps : Program Call Answer Result → Stage → Prop
  | .done result, stage => protocol.Ends stage result
  | .call request resume, stage => ∀ answer, ∃ after,
      protocol.Next stage ⟨request, answer⟩ after ∧ Keeps (resume answer) after

variable {protocol}

/-- What a program has performed is a run of the protocol, and the rest keeps to it. -/
theorem runs_of_reaches {start rest : Program Call Answer Result}
    {calls : List (Exchange Call Answer)} {stage : Stage} (keeps : protocol.Keeps start stage)
    (reaches : start.Reaches calls rest) :
    ∃ after, protocol.Runs stage calls after ∧ protocol.Keeps rest after := by
  induction reaches with
  | refl => exact ⟨stage, .refl, keeps⟩
  | tail _ answer ih =>
      obtain ⟨before, earlier, kept⟩ := ih
      obtain ⟨after, next, rest⟩ := kept answer
      exact ⟨after, earlier.tail next, rest⟩

end Protocol

end Pactix.Foundation
