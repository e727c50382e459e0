import Pactix.Guarantees.Leases
import Pactix.Transport.Endpoint

/-!
# Requests to the inbox endpoint

Which requests are accepted, and what a sequence of them leaves in the table: one row for
each message, which is that of the first request.
-/

namespace Pactix.Transport.HttpInboxEndpoint

open Inbox (InboxMessageRecord Table)

variable {J : Type} {endpoint : HttpInboxEndpoint} {lower : String → String}

/-- A new row that carries the fields of a request. -/
structure Carries (endpoint : HttpInboxEndpoint) (lower : String → String) (request : Request J)
    (row : InboxMessageRecord J) : Prop where
  id : row.id = request.id
  source : row.source = endpoint.source
  messageId : request.header lower messageIdHeader = some row.messageId
  eventType : request.header lower eventTypeHeader = some row.eventType
  messageKey : row.messageKey = request.header lower messageKeyHeader
  orderingKey : row.orderingKey = request.header lower orderingKeyHeader
  correlationId : row.correlationId = request.header lower correlationIdHeader
  headers : ∀ name, row.headers.get name = request.header lower name
  payload : row.payload = request.payload
  pending : row.status = .pending
  attempts : row.attempts = 0
  maxAttempts : row.maxAttempts = endpoint.config.retryPolicy.maxAttempts
  availableAt : row.availableAt = .utc request.time
  receivedAt : row.receivedAt = .utc request.time

/-- The first accepted request with a message id. -/
def first (lower : String → String) (messageId : String) (requests : List (Request J)) :
    Option (Request J) :=
  requests.find? fun request =>
    request.accepted lower && decide (request.header lower messageIdHeader = some messageId)

/-- The rows with a message id. -/
def rowsOf (messageId : String) (table : Table J) : Table J :=
  table.filter fun row => decide (row.messageId = messageId)

theorem first_concat (messageId : String) (requests : List (Request J)) (request : Request J) :
    first lower messageId (requests ++ [request]) =
      (first lower messageId requests).or
        (if request.accepted lower &&
            decide (request.header lower messageIdHeader = some messageId) then
          some request else none) := by
  rw [first, List.find?_append, List.find?_singleton]
  rfl

/-- What some requests have left in a table that was empty. -/
structure Served (endpoint : HttpInboxEndpoint) (lower : String → String)
    (requests : List (Request J)) (table : Table J) : Prop where
  source : ∀ row ∈ table, row.source = endpoint.source
  ids : ∀ row ∈ table, row.id ∈ requests.map (·.id)
  rows : ∀ messageId, List.Forall₂ (endpoint.Carries lower)
    (first lower messageId requests).toList (rowsOf messageId table)

/-- How a request is answered. -/
structure Answered (lower : String → String) (request : Request J) (before : Table J)
    (answer : Except Error Response × Table J) : Prop where
  status : answer.1.map (·.statusCode) = .ok (if request.accepted lower then 202 else 400)
  refused : request.accepted lower = false → answer.2 = before

theorem carries_record {request : Request J} {envelope : MessageEnvelope J}
    (made : request.envelope lower = .ok envelope) :
    endpoint.Carries lower request (Inbox.recordValues
      (endpoint.arrival request envelope).record .postgresql) := by
  obtain ⟨messageId, eventType, messageKey, orderingKey, correlationId, headers, payload⟩ :=
    Request.envelope_fields made
  constructor
  case messageId => exact messageId
  case eventType => exact eventType
  case messageKey => exact messageKey
  case orderingKey => exact orderingKey
  case correlationId => exact correlationId
  case payload => exact payload
  case headers =>
    intro name
    exact (Headers.get_sorted _ name).trans (headers name)
  all_goals rfl

namespace Served

variable {requests : List (Request J)} {request : Request J} {table : Table J}

theorem nil : Served endpoint lower ([] : List (Request J)) [] where
  source := by simp
  ids := by simp
  rows := fun _ => .nil

/-- A message without a row has not been accepted. -/
theorem first_eq_none (served : Served endpoint lower requests table) {messageId : String} :
    first lower messageId requests = none ↔ rowsOf messageId table = [] := by
  have same := (served.rows messageId).length_eq
  cases found : first lower messageId requests with
  | none =>
      rw [found, Option.toList_none, List.length_nil] at same
      exact ⟨fun _ => List.length_eq_zero_iff.mp same.symm, fun _ => rfl⟩
  | some request =>
      constructor
      · nofun
      · intro empty
        rw [found, empty] at same
        cases same

/-- A request that changes nothing is not the first one of its message. -/
theorem unchanged (served : Served endpoint lower requests table)
    (later : ∀ messageId, request.accepted lower = true →
      request.header lower messageIdHeader = some messageId → rowsOf messageId table ≠ []) :
    Served endpoint lower (requests ++ [request]) table where
  source := served.source
  ids row stored := by
    rw [List.map_append]
    exact List.mem_append_left _ (served.ids row stored)
  rows messageId := by
    rw [first_concat]
    split
    next own =>
      rw [Bool.and_eq_true, decide_eq_true_eq] at own
      have known := later messageId own.1 own.2
      rw [ne_eq, ← served.first_eq_none] at known
      obtain ⟨earlier, found⟩ := Option.ne_none_iff_exists'.mp known
      have rows := served.rows messageId
      rw [found] at rows ⊢
      exact rows
    next =>
      rw [Option.or_none]
      exact served.rows messageId

/-- The first request of a message adds its row. -/
theorem append (served : Served endpoint lower requests table) {row : InboxMessageRecord J}
    (accepted : request.accepted lower = true) (carries : endpoint.Carries lower request row)
    (new : rowsOf row.messageId table = []) :
    Served endpoint lower (requests ++ [request]) (table ++ [row]) where
  source stored membership := by
    rcases List.mem_append.mp membership with earlier | added
    · exact served.source stored earlier
    · rw [List.mem_singleton.mp added]
      exact carries.source
  ids stored membership := by
    rw [List.map_append]
    rcases List.mem_append.mp membership with earlier | added
    · exact List.mem_append_left _ (served.ids stored earlier)
    · rw [List.mem_singleton.mp added, carries.id]
      exact List.mem_append_right _ (List.mem_singleton.mpr rfl)
  rows messageId := by
    rw [first_concat, accepted, carries.messageId, rowsOf, List.filter_append]
    by_cases own : row.messageId = messageId
    · subst own
      rw [served.first_eq_none.mpr new]
      have none : table.filter (fun stored => decide (stored.messageId = row.messageId)) = [] := new
      rw [none]
      simpa using carries
    · have others : [row].filter (fun stored => decide (stored.messageId = messageId)) = [] := by
        simp [own]
      rw [others, List.append_nil]
      simpa [own, rowsOf] using served.rows messageId

/-- One request is answered as its headers say, and the table is that of one request more. -/
theorem handler (served : Served endpoint lower requests table)
    (notBlank : isBlank endpoint.source = false) (fresh : request.id ∉ requests.map (·.id)) :
    Answered lower request table (endpoint.handler .postgresql lower request table) ∧
      Served endpoint lower (requests ++ [request])
        (endpoint.handler .postgresql lower request table).2 := by
  rcases request.envelope_cases lower with ⟨accepted, envelope, made⟩ | ⟨refused, _⟩
  · have sent := (Request.envelope_fields made).1
    by_cases known : (endpoint.arrival request envelope).message ∈ table.map (·.message)
    · rw [handler_known notBlank made known]
      refine ⟨⟨by simp [accepted, Except.map], by simp [accepted]⟩, served.unchanged ?_⟩
      intro messageId _ named
      rw [sent, Option.some.injEq] at named
      obtain ⟨row, stored, same⟩ := List.mem_map.mp known
      apply List.ne_nil_of_mem (a := row)
      rw [rowsOf, List.mem_filter, decide_eq_true_eq]
      exact ⟨stored, (congrArg Prod.snd same).trans named⟩
    · have untaken : request.id ∉ table.map (·.id) := by
        intro taken
        obtain ⟨row, stored, sameId⟩ := List.mem_map.mp taken
        exact fresh (sameId ▸ served.ids row stored)
      rw [handler_unknown notBlank made known untaken]
      refine ⟨⟨by simp [accepted, Except.map], by simp [accepted]⟩,
        served.append accepted (carries_record made) ?_⟩
      rw [rowsOf, List.filter_eq_nil_iff]
      intro row stored same
      apply known
      rw [List.mem_map]
      exact ⟨row, stored, Prod.ext (served.source row stored) (of_decide_eq_true same)⟩
  · obtain ⟨content, answered⟩ := handler_refused endpoint .postgresql table refused
    rw [answered]
    refine ⟨⟨by simp [refused, Except.map], fun _ => rfl⟩, served.unchanged ?_⟩
    intro messageId accepted
    rw [refused] at accepted
    cases accepted

/-- Whatever requests come, the table is what they leave. -/
theorem serve (notBlank : isBlank endpoint.source = false) (requests : List (Request J))
    (fresh : (requests.map (·.id)).Nodup) :
    Served endpoint lower requests (endpoint.serve .postgresql lower requests []) := by
  induction requests using List.reverseRecOn with
  | nil => exact .nil
  | append_singleton requests request ih =>
      rw [List.map_append, List.nodup_append] at fresh
      rw [HttpInboxEndpoint.serve, List.foldl_append]
      refine ((ih fresh.1).handler notBlank ?_).2
      intro taken
      exact fresh.2.2 _ taken _ List.mem_cons_self rfl

end Served

end Pactix.Transport.HttpInboxEndpoint

namespace Pactix.Guarantees

open Transport Transport.HttpInboxEndpoint

/-- Every request is answered 202 or 400 as its headers say, a 400 changes nothing, and in the
end there is one row for each message id of an accepted request, with the fields of the first
one. -/
theorem requests_received {J : Type} (endpoint : HttpInboxEndpoint) (lower : String → String)
    (notBlank : isBlank endpoint.source = false) (requests : List (Request J))
    (fresh : (requests.map (·.id)).Nodup) :
    (∀ (index : Nat) request, requests[index]? = some request →
      let before := endpoint.serve .postgresql lower (requests.take index) []
      Answered lower request before (endpoint.handler .postgresql lower request before)) ∧
    ∀ messageId, List.Forall₂ (endpoint.Carries lower)
      (first lower messageId requests).toList
      (rowsOf messageId (endpoint.serve .postgresql lower requests [])) := by
  constructor
  · intro index request arrives before
    have next : requests.take (index + 1) = requests.take index ++ [request] := by
      rw [List.take_add_one, arrives]
      rfl
    have taken := fresh.sublist ((List.take_sublist (index + 1) requests).map (·.id))
    rw [next, List.map_append, List.nodup_append] at taken
    refine ((Served.serve notBlank (requests.take index) taken.1).handler notBlank ?_).1
    intro known
    exact taken.2.2 _ known _ List.mem_cons_self rfl
  · exact (Served.serve notBlank requests fresh).rows

/-- A request of a shop that writes header names as it likes. -/
def posted (id : UUID) (headers : List (String × String)) (payload : Nat) : Request Nat where
  headers := .ofItems headers
  payload
  id
  time := id.toNat * second

/-- A blank message id; the same message twice, with another body; and a message whose last
message id counts. -/
def postings : List (Request Nat) :=
  [posted 1 [("X-Pactix-Message-Id", " "), ("X-Pactix-Event-Type", "order")] 1,
    posted 2 [("X-PACTIX-MESSAGE-ID", "m1"), ("x-pactix-event-type", "order")] 2,
    posted 3 [("x-pactix-message-id", "m1"), ("x-pactix-event-type", "refund")] 3,
    posted 4 [("x-pactix-message-id", "m1"), ("X-Pactix-Message-Id", "m2"),
      ("x-pactix-event-type", "order"), ("x-pactix-ordering-key", "customer")] 4]

def shop : HttpInboxEndpoint := { source := "shop", config := {} }

theorem requests_received_sample :
    (first String.toLower "m1" postings).map (·.payload) = some 2 ∧
    (first String.toLower "m2" postings).map (·.payload) = some 4 ∧
    (∀ (index : Nat) request, postings[index]? = some request →
      let before := shop.serve .postgresql String.toLower (postings.take index) []
      Answered String.toLower request before
        (shop.handler .postgresql String.toLower request before)) ∧
    List.Forall₂ (shop.Carries String.toLower) (first String.toLower "m1" postings).toList
      (rowsOf "m1" (shop.serve .postgresql String.toLower postings [])) := by
  have claim := requests_received shop String.toLower (by decide +kernel) postings
    (by decide +kernel)
  exact ⟨by decide +kernel, by decide +kernel, claim.1, claim.2 "m1"⟩

end Pactix.Guarantees
