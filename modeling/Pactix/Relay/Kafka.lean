import Pactix.Relay.Runs
import Pactix.Transport.Group
import Pactix.Transport.Publishers

/-!
# Relay over Kafka

The publisher produces to the partitions of a topic, which a consumer group reads.  A message is
acknowledged once it is in a partition.
-/

namespace Pactix.Relay

open Foundation Transport
open Worker (Deployment)

variable {M W J : Type} [DecidableEq M] [DecidableEq W]

/-- A produced message where the broker has put it. -/
def delivered (message : KafkaProducedMessage) (partition offset : Int) : ConsumerRecord :=
  (send message).delivered message.topic partition offset

section Carrier

variable (router : KafkaTopicRouter) (group : KafkaGroup M J) (deployment : Deployment W)
variable (mode : W → Inbox.Mode)

/-- Kafka as a transport between an outbox and a consumer group.  A message arrives in some
partition at some offset. -/
def kafkaCarrier : Carrier J KafkaProducedMessage (KafkaGroup.State M W J) (Int × Int)
    (KafkaGroup.Label M W J) Unit where
  take message placed state :=
    (group.step deployment mode state (.produce (delivered message placed.1 placed.2))).map
      fun state => (state, some ())
  own label state := group.step deployment mode state label
  build := buildMessage group.codec router
  outcome _ := .published
  build_congr := buildMessage_congr group.codec router

/-- The publisher of the relay is the Kafka publisher. -/
theorem publish_kafkaCarrier (client : KafkaProducedMessage → Except String Unit) :
    (kafkaCarrier (M := M) router group deployment mode).publish client =
      kafkaPublish group.codec router client := by
  funext record
  simp only [Carrier.publish, kafkaPublish, kafkaCarrier]
  congr 1
  funext message
  cases client message <;> rfl

/-- Only the outbox produces, and only the group stores under its source. -/
def Sole (state : KafkaGroup.State M W J) : KafkaGroup.Label M W J → Prop
  | .produce _ => False
  | .inbox label => Inbox.Elsewhere deployment group.source state.inbox label
  | .assign _ _ | .save _ _ _ _ | .commit _ | .leave _ => True

omit [DecidableEq M] [DecidableEq W] in
instance (state : KafkaGroup.State M W J) (label : KafkaGroup.Label M W J) :
    Decidable (Sole group deployment state label) :=
  match label with
  | .produce _ => isFalse id
  | .inbox label =>
      inferInstanceAs (Decidable (Inbox.Elsewhere deployment group.source state.inbox label))
  | .assign _ _ | .save _ _ _ _ | .commit _ | .leave _ => isTrue trivial

/-- A message that is acknowledged is in the log, and the log holds nothing else. -/
def kafkaTerms (clock : Int) : Terms (KafkaGroup.State M W J) KafkaProducedMessage
    (KafkaGroup.Label M W J) Unit ConsumerRecord where
  Allowed := Sole group deployment
  Sound := (group.machine deployment mode).Path (group.Alone deployment) (.initial clock)
  Fits _ := True
  Effective _ := True
  Has message state := ∃ partition offset, delivered message partition offset ∈ state.log
  Holds state record := record ∈ state.log
  From message record := ∃ partition offset, record = delivered message partition offset

instance (clock : Int) (state : KafkaGroup.State M W J) (label : KafkaGroup.Label M W J) :
    Decidable ((kafkaTerms group deployment mode clock).Allowed state label) :=
  inferInstanceAs (Decidable (Sole group deployment state label))

end Carrier

variable {router : KafkaTopicRouter} {group : KafkaGroup M J} {deployment : Deployment W}
variable {mode : W → Inbox.Mode} {clock : Int}

omit [DecidableEq M] [DecidableEq W] in
theorem Sole.alone {state : KafkaGroup.State M W J} {label : KafkaGroup.Label M W J}
    (sole : Sole group deployment state label) : group.Alone deployment state label := by
  cases label with
  | inbox label => exact sole
  | produce | assign | save | commit | leave => trivial

/-- The broker honours the terms. -/
theorem kafkaCarrier_honours : (kafkaCarrier (M := M) router group deployment mode).Honours
    (kafkaTerms group deployment mode clock) := by
  have took : ∀ {message placed} {state after : KafkaGroup.State M W J} {answer},
      (kafkaCarrier router group deployment mode).take message placed state =
        some (after, answer) →
      group.step deployment mode state (.produce (delivered message placed.1 placed.2)) =
        some after := by
    intro message placed state after answer took
    obtain ⟨next, stepped, same⟩ := Option.map_eq_some_iff.mp took
    obtain ⟨rfl, _⟩ := Prod.mk.inj same
    exact stepped
  have produced : ∀ {state after : KafkaGroup.State M W J} {record},
      group.step deployment mode state (.produce record) = some after →
        after.log = state.log ++ [record] := by
    intro state after record stepped
    simp only [KafkaGroup.step] at stepped
    split at stepped
    next => rw [← Option.some.inj stepped]
    next => cases stepped
  constructor
  case sound_take =>
    intro message placed state after answer path taken
    exact path.tail ⟨.produce _, trivial, took taken⟩
  case sound_own =>
    intro label state after path sole stepped
    exact path.tail ⟨label, sole.alone, stepped⟩
  case answered =>
    intro message placed state after answer _ _ taken _
    refine ⟨placed.1, placed.2, ?_⟩
    rw [produced (took taken)]
    exact List.mem_append_right _ (List.mem_singleton.mpr rfl)
  case kept_take =>
    rintro message placed state after answer other _ taken ⟨partition, offset, listed⟩
    exact ⟨partition, offset, KafkaGroup.log_grows (took taken) _ listed⟩
  case kept_own =>
    rintro label state after other _ _ stepped ⟨partition, offset, listed⟩
    exact ⟨partition, offset, KafkaGroup.log_grows stepped _ listed⟩
  case new_take =>
    intro message placed state after answer record _ _ taken listed
    have listed : record ∈ after.log := listed
    rw [produced (took taken), List.mem_append, List.mem_singleton] at listed
    rcases listed with before | new
    · exact .inl before
    · exact .inr ⟨placed.1, placed.2, new⟩
  case new_own =>
    intro label state after record _ sole stepped listed
    have stepped : KafkaGroup.step group deployment mode state label = some after := stepped
    cases KafkaGroup.stepped_of_step stepped with
    | produce => exact absurd sole id
    | inbox | assign | save | commit | leave => exact listed

end Pactix.Relay
