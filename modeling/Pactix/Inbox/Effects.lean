import Pactix.Inbox.Custody
import Pactix.Inbox.Protocol
import Pactix.Worker.Consulting
import Pactix.Worker.Sessions

/-!
# Effects of the handler

An application commits the effect of a message together with a note of it, which its
idempotency hook reads.  While leases are kept, two workers are never both let through to the
handler with one message, so its effect is committed once, however often it is delivered.
-/

namespace Pactix.Inbox

open Foundation
open Worker (Deployment Disciplined Simulates)

variable {W J : Type}

/-- An inbox, and the messages whose effects its application has committed, newest first. -/
structure Effects (W J : Type) where
  inbox : State W J
  applied : List (String × String)

/-- A step of the inbox.  When it calls the handler, the handler may commit the effect of the
message, whatever it answers. -/
structure Deed (W J : Type) where
  label : Label W J
  commits : Bool

/-- The record that a callback gives to the handler. -/
def Query.handled : Query J → Option (InboxMessageRecord J)
  | .handler record => some record
  | .staleEventFilter _ => none
  | .idempotencyHook _ => none

/-- The callback that a step makes. -/
def asks (inbox : State W J) : Label W J → Option (Query J)
  | .act worker _ => (inbox.request worker).bind Worker.Call.asked
  | .receive _ | .spawn _ | .crash _ => none

/-- What an application owes to its messages, given the notes that it has taken. -/
def Honest (applied : List (String × String)) (commits : Bool) :
    (query : Query J) → Except Error query.Reply → Prop
  | .staleEventFilter _, _ => True
  | .idempotencyHook record, .ok .process => record.message ∉ applied
  | .idempotencyHook record, .ok .alreadyApplied => record.message ∈ applied
  | .idempotencyHook _, .ok .skip => True
  | .idempotencyHook _, .error _ => True
  | .handler _, .ok outcome => outcome.kind = .processed → commits = true
  | .handler _, .error _ => True

instance (applied : List (String × String)) (commits : Bool) (query : Query J)
    (reply : Except Error query.Reply) : Decidable (Honest applied commits query reply) :=
  match query, reply with
  | .staleEventFilter _, _ => isTrue trivial
  | .idempotencyHook record, .ok .process => inferInstanceAs (Decidable (record.message ∉ applied))
  | .idempotencyHook record, .ok .alreadyApplied =>
      inferInstanceAs (Decidable (record.message ∈ applied))
  | .idempotencyHook _, .ok .skip => isTrue trivial
  | .idempotencyHook _, .error _ => isTrue trivial
  | .handler _, .ok outcome =>
      inferInstanceAs (Decidable (outcome.kind = .processed → commits = true))
  | .handler _, .error _ => isTrue trivial

/-- A callback is answered honestly, and the handler is done before the lease is over: its call
is one step, at a time when it has returned and what it commits is committed. -/
def Keeps (applied : List (String × String)) (commits : Bool) (time : Int) (query : Query J)
    (reply : Except Error query.Reply) : Prop :=
  Honest applied commits query reply ∧
    ∀ record ∈ query.handled, ∀ lease ∈ record.leaseUntil, time ≤ lease.instant

instance (applied : List (String × String)) (commits : Bool) (time : Int) (query : Query J)
    (reply : Except Error query.Reply) : Decidable (Keeps applied commits time query reply) :=
  inferInstanceAs (Decidable (Honest applied commits query reply ∧
    ∀ record ∈ query.handled, ∀ lease ∈ record.leaseUntil, time ≤ lease.instant))

namespace Effects

def initial (clock : Int) : Effects W J where
  inbox := .initial clock
  applied := []

variable [DecidableEq W] (deployment : Deployment W) (mode : W → Mode)

/-- The transition function. -/
def step (state : Effects W J) (deed : Deed W J) : Option (Effects W J) :=
  (Worker.step (service deployment mode) state.inbox deed.label).map fun inbox =>
    { inbox
      applied :=
        match (asks state.inbox deed.label).bind Query.handled with
        | some record => if deed.commits then record.message :: state.applied else state.applied
        | none => state.applied }

def machine : Machine (Effects W J) (Deed W J) := ⟨step deployment mode⟩

/-- Under one clock, outcomes are recorded before the lease is over, and the application keeps
its word. -/
def Dutiful (state : Effects W J) (deed : Deed W J) : Prop :=
  Disciplined (service deployment mode) state.inbox deed.label ∧
    match deed.label with
    | .act _ context => ∀ query ∈ asks state.inbox deed.label,
        Keeps state.applied deed.commits context.time query (context.reply query)
    | .receive _ | .spawn _ | .crash _ => True

instance (state : Effects W J) :
    (deed : Deed W J) → Decidable (Dutiful deployment mode state deed)
  | ⟨.act worker context, commits⟩ => inferInstanceAs (Decidable (
      Disciplined (service deployment mode) state.inbox (.act worker context) ∧
        ∀ query ∈ asks state.inbox (.act worker context),
          Keeps state.applied commits context.time query (context.reply query)))
  | ⟨.receive arrival, _⟩ => inferInstanceAs (Decidable (
      Disciplined (service deployment mode) state.inbox (.receive arrival) ∧ True))
  | ⟨.spawn worker, _⟩ => inferInstanceAs (Decidable (
      Disciplined (service deployment mode) state.inbox (.spawn worker) ∧ True))
  | ⟨.crash worker, _⟩ => inferInstanceAs (Decidable (
      Disciplined (service deployment mode) state.inbox (.crash worker) ∧ True))

end Effects

/-! ## The way to the handler -/

/-- A program that keeps to the protocol calls the handler only when it is let through. -/
theorem granted_of_keeps {mode : Mode} {record : InboxMessageRecord J}
    {resume : Except Error HandleOutcome → InboxPass J} {stage : Stage J}
    (keeps : (protocol mode).Keeps (.call (.ask (.handler record)) resume) stage) :
    ∃ summary rows, stage = .granted summary record rows := by
  obtain ⟨after, next, _⟩ := keeps (.ok .processed)
  cases next with
  | handled summary row rows => exact ⟨summary, rows, rfl⟩

/-- It is let through by the idempotency hook. -/
theorem granted_by {mode : Mode} {before : Stage J} {exchange : InboxExchange J}
    {summary : RunSummary} {record : InboxMessageRecord J} {rows : List (InboxMessageRecord J)}
    (next : Next mode before exchange (.granted summary record rows)) :
    exchange = ⟨.ask (.idempotencyHook record), .ok .process⟩ := by
  cases next with
  | process => rfl

section Steps

variable [DecidableEq W] {deployment : Deployment W} {mode : W → Mode}
variable {inbox after : State W J} {label : Label W J}

/-- Every pass that is under way keeps to the protocol of its mode. -/
def Staged (mode : W → Mode) (inbox : State W J) : Prop :=
  ∀ worker program, (inbox.process worker).program = some program →
    ∃ stage, (protocol (mode worker)).Keeps program stage

theorem Staged.step (staged : Staged mode inbox)
    (stepped : Worker.step (service deployment mode) inbox label = some after) :
    Staged mode after := by
  intro worker program running
  cases Worker.stepped_of_step stepped with
  | receive | reject => exact staged worker program running
  | spawn actor =>
      by_cases own : worker = actor
      · subst own
        simp only [Function.update_self, Option.some.injEq] at running
        subst running
        exact ⟨_, keeps_runOnce (mode worker)⟩
      · simp only [Function.update_of_ne own] at running
        exact staged worker program running
  | crash actor =>
      by_cases own : worker = actor
      · subst own
        simp at running
      · simp only [Function.update_of_ne own] at running
        exact staged worker program running
  | act actor context request resume performing =>
      by_cases own : worker = actor
      · subst own
        rw [Worker.program_act, Option.some.injEq] at running
        obtain ⟨stage, keeps⟩ := staged worker _ performing
        obtain ⟨later, _, rest⟩ :=
          keeps ((service deployment mode).store.perform worker context request inbox.table).1
        exact ⟨later, running ▸ rest⟩
      · rw [Worker.program_act_of_ne inbox own] at running
        exact staged worker program running

/-- Who is about to call the handler was so before, or has just been let through. -/
theorem let_through (staged : Staged mode inbox)
    (stepped : Worker.step (service deployment mode) inbox label = some after) {worker : W}
    {record : InboxMessageRecord J}
    (requests : after.request worker = some (.ask (.handler record))) :
    label.actor ≠ some worker ∧ inbox.request worker = some (.ask (.handler record)) ∨
      ∃ context, label = .act worker context ∧
        inbox.request worker = some (.ask (.idempotencyHook record)) ∧
        context.reply (.idempotencyHook record) = .ok .process := by
  by_cases acts : label.actor = some worker
  · right
    cases Worker.stepped_of_step stepped with
    | receive | reject => cases acts
    | spawn actor | crash actor =>
        obtain rfl := Option.some.inj acts
        simp [Worker.State.request, service, runOnce] at requests
    | act actor context request resume performing =>
        obtain rfl := Option.some.inj acts
        obtain ⟨stage, keeps⟩ := staged _ _ performing
        obtain ⟨later, next, rest⟩ :=
          keeps ((service deployment mode).store.perform actor context request inbox.table).1
        rw [Worker.State.request, Worker.program_act] at requests
        have asked := Worker.request_of_running performing
        generalize answered : ((service deployment mode).store.perform actor context request
          inbox.table).1 = answer at next rest requests
        generalize resume answer = program at rest requests
        cases program with
        | done result => simp at requests
        | call following onwards =>
            obtain rfl := Option.some.inj requests
            obtain ⟨summary, rows, rfl⟩ := granted_of_keeps rest
            cases granted_by next
            exact ⟨context, rfl, asked, answered⟩
  · exact .inl ⟨acts, Worker.request_step stepped acts ▸ requests⟩

/-- Until it claims again, what has been taken back from a worker stays taken. -/
theorem evicted_step (stepped : Worker.step (service deployment mode) inbox label = some after)
    {worker : W} (unclaimed : label.actor ≠ some worker ∨
      ∃ context query, label = .act worker context ∧ inbox.request worker = some (.ask query)) :
    (inbox.process worker).evicted ⊆ (after.process worker).evicted := by
  cases Worker.stepped_of_step stepped with
  | receive | reject => exact List.Subset.refl _
  | spawn actor | crash actor =>
      have other : worker ≠ actor := by
        rintro rfl
        simp [Worker.Label.actor] at unclaimed
      simp only [Function.update_of_ne other]
      exact List.Subset.refl _
  | act actor context request resume performing =>
      by_cases own : worker = actor
      · subst own
        have asks : ∃ query, request = .ask query := by
          rcases unclaimed with other | ⟨_, query, _, requests⟩
          · exact absurd rfl other
          · rw [Worker.request_of_running performing] at requests
            exact ⟨query, Option.some.inj requests⟩
        obtain ⟨query, rfl⟩ := asks
        simp [Worker.act]
      · simp only [Worker.act, own, if_false]
        cases request with
        | reclaimAndClaim query now => exact List.subset_append_left _ _
        | utcnow | ask | markDone | handleRetryableFailure | markFailed =>
            exact List.Subset.refl _

omit [DecidableEq W] in
/-- Who calls the handler before its lease is over has not lost the row. -/
theorem unevicted_of_leased {queue : Worker.QueueState W (Content J)}
    (simulates : Simulates (service deployment mode) inbox queue)
    (punctual : Queue.Punctual queue) {worker : W} {record : InboxMessageRecord J}
    (requests : inbox.request worker = some (.ask (.handler record))) {time : Int}
    (clocked : inbox.clock ≤ time) (leased : ∀ lease ∈ record.leaseUntil, time ≤ lease.instant) :
    record.id ∉ (inbox.process worker).evicted := by
  intro lost
  obtain ⟨held, _⟩ := simulates.asked requests
  obtain ⟨limit, limited, ended⟩ := punctual.evicted_late worker record.entry
    (simulates.mem_held held) ((simulates.follows worker).evicted.symm ▸ lost)
  obtain ⟨lease, present, rfl⟩ := Option.map_eq_some_iff.mp limited
  have inTime := leased lease present
  rw [simulates.clock] at ended
  omega

/-- A record is known by its fixed columns. -/
theorem message_of_card {row record : InboxMessageRecord J}
    (same : row.entry.card = record.entry.card) : row.message = record.message :=
  congrArg (fun card => (card.body.source, card.body.messageId)) same

omit [DecidableEq W] in
/-- Two workers that still have one message are the same. -/
theorem holder_unique {queue : Worker.QueueState W (Content J)}
    (simulates : Simulates (service deployment mode) inbox queue) (tenure : Queue.Tenure queue)
    (distinct : (inbox.table.map InboxMessageRecord.message).Nodup) {left right : W}
    {leftQuery rightQuery : Query J}
    (leftAsks : inbox.request left = some (.ask leftQuery))
    (rightAsks : inbox.request right = some (.ask rightQuery))
    (same : leftQuery.record.message = rightQuery.record.message)
    (leftKept : leftQuery.record.id ∉ (inbox.process left).evicted)
    (rightKept : rightQuery.record.id ∉ (inbox.process right).evicted) : left = right := by
  obtain ⟨leftHeld, _⟩ := simulates.asked leftAsks
  obtain ⟨rightHeld, _⟩ := simulates.asked rightAsks
  obtain ⟨leftRow, leftStored, leftCard⟩ := simulates.held_stored leftHeld
  obtain ⟨rightRow, rightStored, rightCard⟩ := simulates.held_stored rightHeld
  obtain rfl : leftRow = rightRow := by
    apply List.inj_on_of_nodup_map distinct leftStored rightStored
    rw [message_of_card leftCard, message_of_card rightCard]
    exact same
  exact tenure.exclusive left right _ (simulates.mem_held leftHeld) _
    (simulates.mem_held rightHeld) (congrArg Queue.Card.id (leftCard.symm.trans rightCard))
    ((simulates.follows left).evicted.symm ▸ leftKept)
    ((simulates.follows right).evicted.symm ▸ rightKept)

end Steps

/-! ## The invariant -/

/-- What the application has noted of a reply. -/
def Noted (applied : List (String × String)) :
    Worker.Consultation W (Query J) Query.Reply → Prop
  | ⟨_, .staleEventFilter _, _⟩ => True
  | ⟨_, .idempotencyHook record, decision⟩ =>
      decision = .alreadyApplied → record.message ∈ applied
  | ⟨_, .handler record, outcome⟩ => outcome.kind = .processed → record.message ∈ applied

theorem Noted.mono {applied later : List (String × String)}
    {call : Worker.Consultation W (Query J) Query.Reply} (noted : Noted applied call)
    (grown : applied ⊆ later) : Noted later call := by
  obtain ⟨worker, query, reply⟩ := call
  cases query with
  | staleEventFilter record => trivial
  | idempotencyHook record | handler record => exact fun said => grown (noted said)

namespace Effects

/-- Whoever still has the row of a message, and has been let through to the handler with it,
finds the effect uncommitted. -/
structure Sound (deployment : Deployment W) (mode : W → Mode) (state : Effects W J) : Prop where
  orderly : ∃ queue, Simulates (service deployment mode) state.inbox queue ∧ Queue.Orderly queue
  staged : Staged mode state.inbox
  granted : ∀ worker record, state.inbox.request worker = some (.ask (.handler record)) →
    record.id ∉ (state.inbox.process worker).evicted → record.message ∉ state.applied
  once : state.applied.Nodup
  known : ∀ message ∈ state.applied, ∃ row ∈ state.inbox.table, row.message = message
  noted : ∀ call ∈ state.inbox.consulted, Noted state.applied call

variable {deployment : Deployment W} {mode : W → Mode} {state after : Effects W J}
variable {deed : Deed W J}

theorem Sound.initial (clock : Int) : Sound deployment mode (.initial clock : Effects W J) where
  orderly := ⟨_, .initial clock, .initial clock⟩
  staged _ _ running := by cases running
  granted _ _ requests := by cases requests
  once := List.nodup_nil
  known _ listed := absurd listed List.not_mem_nil
  noted _ consulted := absurd consulted List.not_mem_nil

variable [DecidableEq W]

omit [DecidableEq W] in
theorem asks_act {worker : W} {context : Worker.Context (InboxMessageRecord J) (Query J)
      Query.Reply} {query : Query J} {inbox : State W J} {label : Label W J}
    (acts : label = .act worker context) (requests : inbox.request worker = some (.ask query)) :
    asks inbox label = some query := by
  rw [acts, asks, requests]
  rfl

/-- The effect that a step commits. -/
theorem applied_step (stepped : step deployment mode state deed = some after) :
    (∃ worker context record, deed.label = .act worker context ∧
      state.inbox.request worker = some (.ask (.handler record)) ∧
        after.applied = record.message :: state.applied) ∨ after.applied = state.applied := by
  obtain ⟨inbox, _, rfl⟩ := Option.map_eq_some_iff.mp stepped
  simp only
  split
  next record found =>
    obtain ⟨query, asked, handled⟩ := Option.bind_eq_some_iff.mp found
    split
    next commits =>
      left
      cases acts : deed.label with
      | receive | spawn | crash => simp [acts, asks] at asked
      | act worker context =>
          rw [acts] at asked
          obtain ⟨request, requests, asks⟩ := Option.bind_eq_some_iff.mp asked
          obtain rfl := Worker.Call.asked_eq_some.mp asks
          cases query with
          | staleEventFilter | idempotencyHook => cases handled
          | handler given =>
              obtain rfl := Option.some.inj handled
              exact ⟨worker, context, given, rfl, requests, rfl⟩
    next => exact .inr rfl
  next => exact .inr rfl

theorem applied_of_commits (stepped : step deployment mode state deed = some after) {worker : W}
    {context : Worker.Context (InboxMessageRecord J) (Query J) Query.Reply}
    (acts : deed.label = .act worker context) {record : InboxMessageRecord J}
    (requests : state.inbox.request worker = some (.ask (.handler record)))
    (commits : deed.commits = true) : after.applied = record.message :: state.applied := by
  obtain ⟨inbox, _, rfl⟩ := Option.map_eq_some_iff.mp stepped
  simp [asks_act acts requests, Query.handled, commits]

theorem inbox_step (stepped : step deployment mode state deed = some after) :
    Worker.step (service deployment mode) state.inbox deed.label = some after.inbox := by
  obtain ⟨inbox, worked, rfl⟩ := Option.map_eq_some_iff.mp stepped
  exact worked

omit [DecidableEq W] in
theorem Dutiful.asked {worker : W} {context : Worker.Context (InboxMessageRecord J) (Query J)
      Query.Reply} {query : Query J} (dutiful : Dutiful deployment mode state deed)
    (acts : deed.label = .act worker context)
    (requests : state.inbox.request worker = some (.ask query)) :
    Keeps state.applied deed.commits context.time query (context.reply query) := by
  have kept := dutiful.2
  rw [acts] at kept
  exact kept query (asks_act rfl requests)

omit [DecidableEq W] in
/-- A dutiful application calls the handler only with a row that its worker still has. -/
theorem Dutiful.kept {queue : Worker.QueueState W (Content J)}
    (dutiful : Dutiful deployment mode state deed)
    (simulates : Simulates (service deployment mode) state.inbox queue)
    (orderly : Queue.Orderly queue) {worker : W}
    {context : Worker.Context (InboxMessageRecord J) (Query J) Query.Reply}
    (acts : deed.label = .act worker context) {record : InboxMessageRecord J}
    (requests : state.inbox.request worker = some (.ask (.handler record))) :
    record.id ∉ (state.inbox.process worker).evicted := by
  have clocked := dutiful.1.1
  rw [acts] at clocked
  exact unevicted_of_leased simulates orderly.punctual requests clocked
    ((dutiful.asked acts requests).2 record rfl)

theorem Sound.step (sound : Sound deployment mode state)
    (distinct : (state.inbox.table.map InboxMessageRecord.message).Nodup)
    (dutiful : Dutiful deployment mode state deed)
    (stepped : step deployment mode state deed = some after) : Sound deployment mode after := by
  obtain ⟨queue, simulates, orderly⟩ := sound.orderly
  have worked := inbox_step stepped
  refine ⟨?_, sound.staged.step worked, ?_, ?_, ?_, ?_⟩
  · exact simulates.path_holds Queue.Orderly
      (fun disciplined _ licenses step orderly =>
        orderly.step (licenses.clocked disciplined.1) (licenses.timely disciplined.2) step)
      orderly (Machine.path_single deed.label dutiful.1 worked)
  · intro worker record requests kept
    rcases let_through sound.staged worked requests with
      ⟨other, before⟩ | ⟨context, acts, asked, replied⟩
    · have keptBefore := fun lost => kept (evicted_step worked (.inl other) lost)
      have unapplied := sound.granted worker record before keptBefore
      rcases applied_step stepped with ⟨actor, context, given, acts, gives, added⟩ | same
      · rw [added, List.mem_cons, not_or]
        refine ⟨fun same => other ?_, unapplied⟩
        -- Both would have the one row of the message.
        rw [acts, holder_unique simulates orderly.tenure distinct gives before same.symm
          (dutiful.kept simulates orderly acts gives) keptBefore]
        rfl
      · rw [same]
        exact unapplied
    · have honest := (dutiful.asked acts asked).1
      rw [replied] at honest
      rcases applied_step stepped with ⟨actor, _, given, acting, gives, _⟩ | same
      · rw [acts] at acting
        obtain ⟨rfl, rfl⟩ := Worker.Label.act.inj acting
        rw [asked] at gives
        cases gives
      · rw [same]
        exact honest
  · rcases applied_step stepped with ⟨actor, context, given, acts, gives, added⟩ | same
    · rw [added, List.nodup_cons]
      exact ⟨sound.granted actor given gives (dutiful.kept simulates orderly acts gives),
        sound.once⟩
    · rw [same]
      exact sound.once
  · have kept : ∀ row ∈ state.inbox.table, ∃ later ∈ after.inbox.table,
        later.message = row.message := by
      intro row stored
      obtain ⟨later, present, card, _⟩ :=
        simulates.rows_kept (Machine.path_single deed.label trivial worked) stored
      exact ⟨later, present, message_of_card card⟩
    have before : ∀ message ∈ state.applied, ∃ row ∈ after.inbox.table,
        row.message = message := by
      intro message listed
      obtain ⟨row, stored, rfl⟩ := sound.known message listed
      exact kept row stored
    rcases applied_step stepped with ⟨actor, context, given, acts, gives, added⟩ | same
    · rw [added]
      intro message listed
      rcases List.mem_cons.mp listed with rfl | earlier
      · obtain ⟨row, stored, card⟩ := simulates.held_stored (simulates.asked gives).1
        obtain ⟨later, present, same⟩ := kept row stored
        exact ⟨later, present, same.trans (message_of_card card)⟩
      · exact before message earlier
    · rw [same]
      exact before
  · have grown : state.applied ⊆ after.applied := by
      rcases applied_step stepped with ⟨_, _, _, _, _, added⟩ | same
      · rw [added]
        exact List.subset_cons_self _ _
      · rw [same]
        exact List.Subset.refl _
    intro call consulted
    rcases Worker.consulted_step worked with
      same | ⟨worker, context, query, reply, acts, asks, replied, added⟩
    · rw [same] at consulted
      exact (sound.noted call consulted).mono grown
    · rw [added] at consulted
      rcases List.mem_cons.mp consulted with rfl | earlier
      · have honest := (dutiful.asked acts asks).1
        rw [replied] at honest
        cases query with
        | staleEventFilter record => trivial
        | idempotencyHook record =>
            rintro rfl
            exact grown honest
        | handler record =>
            intro processed
            rw [applied_of_commits stepped acts asks (honest processed)]
            exact List.mem_cons_self
      · exact (sound.noted call earlier).mono grown

end Effects

end Pactix.Inbox
