import Pactix.Inbox.Model

/-!
# What inbox callbacks may answer

The stale-event filter, the idempotency hook and the handler are application
code; these are the decisions the runner reads.
-/

namespace Pactix.Inbox

/-- Decision returned by a stale-event filter. -/
inductive StaleEventDecision where
  | fresh
  | stale
  deriving DecidableEq, Repr

/-- Decision returned before the handler runs. -/
inductive IdempotencyDecision where
  | process
  | skip
  | alreadyApplied
  deriving DecidableEq, Repr

inductive HandleKind where
  | processed
  | retryable
  | terminal
  deriving DecidableEq, Repr

/-- Result of a single inbox handler invocation. -/
structure HandleOutcome where
  kind : HandleKind
  message : Option String := none
  deriving DecidableEq, Repr

namespace HandleOutcome

def processed : HandleOutcome := { kind := .processed }

def retryable (message : String) : HandleOutcome :=
  { kind := .retryable, message := some message }

def terminal (message : String) : HandleOutcome :=
  { kind := .terminal, message := some message }

end HandleOutcome

/-- The callbacks a pass can ask about a record. -/
inductive Query (J : Type) where
  | staleEventFilter (record : InboxMessageRecord J)
  | idempotencyHook (record : InboxMessageRecord J)
  | handler (record : InboxMessageRecord J)

namespace Query

variable {J : Type}

def record : Query J → InboxMessageRecord J
  | .staleEventFilter record => record
  | .idempotencyHook record => record
  | .handler record => record

abbrev Reply : Query J → Type
  | .staleEventFilter _ => StaleEventDecision
  | .idempotencyHook _ => IdempotencyDecision
  | .handler _ => HandleOutcome

end Query

end Pactix.Inbox
