import Pactix.Outbox.Model

/-!
# Publish outcomes and the publisher registry

A publisher is application code, so it is a parameter; what the library decides
is which one is used.
-/

namespace Pactix.Outbox

variable {J Publisher : Type}

inductive PublishKind where
  | published
  | retryable
  | terminal
  deriving DecidableEq, Repr

/-- Result of a single publish attempt. -/
structure PublishOutcome where
  kind : PublishKind
  message : Option String := none
  deriving DecidableEq, Repr

namespace PublishOutcome

def published : PublishOutcome := { kind := .published }

def retryable (message : String) : PublishOutcome :=
  { kind := .retryable, message := some message }

def terminal (message : String) : PublishOutcome :=
  { kind := .terminal, message := some message }

end PublishOutcome

/-- Resolves a publisher by event type.  Exact registrations take precedence over
a catch-all publisher. -/
structure PublisherRegistry (Publisher : Type) where
  publishers : String → Option Publisher := fun _ => none
  catchAll : Option Publisher := none

namespace PublisherRegistry

def register (eventType : String) (publisher : Publisher)
    (registry : PublisherRegistry Publisher) : PublisherRegistry Publisher :=
  { registry with
    publishers := fun other =>
      if other = eventType then some publisher else registry.publishers other }

def registerMany (eventTypes : List String) (publisher : Publisher)
    (registry : PublisherRegistry Publisher) : PublisherRegistry Publisher :=
  eventTypes.foldl (fun registry eventType => registry.register eventType publisher) registry

def registerAll (publisher : Publisher) (registry : PublisherRegistry Publisher) :
    PublisherRegistry Publisher :=
  { registry with catchAll := some publisher }

def resolve (registry : PublisherRegistry Publisher) (eventType : String) :
    Except Error Publisher :=
  match (registry.publishers eventType).or registry.catchAll with
  | some publisher => .ok publisher
  | none => .error (.routing ("no publisher registered for '" ++ eventType ++ "'"))

/-- Publish a record; `invoke` is what the publishers do. -/
def publish (registry : PublisherRegistry Publisher)
    (invoke : Publisher → OutboxMessageRecord J → Except Error PublishOutcome)
    (record : OutboxMessageRecord J) : Except Error PublishOutcome := do
  let publisher ← registry.resolve record.eventType
  invoke publisher record

/-- Resolving fails exactly when the event type is unmapped and there is no
catch-all publisher. -/
theorem resolve_eq_error {registry : PublisherRegistry Publisher} {eventType : String} :
    (∃ error, registry.resolve eventType = .error error) ↔
      registry.publishers eventType = none ∧ registry.catchAll = none := by
  unfold resolve
  cases registry.publishers eventType <;> cases registry.catchAll <;> simp

/-- After a registration of several event types, exactly these resolve to the
publisher. -/
theorem publishers_registerMany (eventTypes : List String) (publisher : Publisher)
    (registry : PublisherRegistry Publisher) (eventType : String) :
    (registry.registerMany eventTypes publisher).publishers eventType =
      if eventType ∈ eventTypes then some publisher
      else registry.publishers eventType := by
  unfold registerMany
  induction eventTypes generalizing registry with
  | nil => simp
  | cons first rest ih =>
      rw [List.foldl_cons, ih]
      by_cases later : eventType ∈ rest
      · simp [later]
      · by_cases same : eventType = first <;> simp [register, later, same]

end PublisherRegistry

end Pactix.Outbox
