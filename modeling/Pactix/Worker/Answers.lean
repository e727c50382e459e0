import Pactix.Worker.Solo

/-!
# What the callbacks of a pass answer

No callback is asked twice in a pass.  So callbacks that return, whatever they answer
and whenever, can be described by one answer to each question.
-/

namespace Pactix.Worker

open Foundation Queue

variable {Worker Row Ask Summary Arrival Receipt Body : Type} {Reply : Ask → Type}

/-- An inquiry asks nothing twice, and nothing of what has been asked before. -/
def Inquiry.Once : List Ask → Inquiry Ask Reply Summary → Prop
  | _, .settled _ _ => True
  | before, .ask query next => query ∉ before ∧ ∀ reply, (next reply).Once (query :: before)

/-- The callbacks that are asked by a list of calls. -/
def questions (requests : List (Call Ask)) : List Ask :=
  requests.filterMap Call.asked

section Execute

variable {interpret : Nat → (request : Call Ask) → List Row → Answer Row Reply request × List Row}

variable (interpret) in
/-- The questions of an inquiry are new and about its row.  Those of what comes after it
follow, unless a callback raises. -/
theorem questions_pursue {judge : (query : Ask) → Reply query → Option Verdict}
    {About : Ask → Prop}
    (continuation : Verdict → (Recorded → Summary → Summary) → Pass Row Ask Reply Summary)
    {inquiry : Inquiry Ask Reply Summary} {decided : Option Verdict} {before : List Ask}
    (sound : inquiry.Sound judge About decided) (once : inquiry.Once before) (position : Nat)
    (table : List Row) :
    ∃ own : List Ask, own.Nodup ∧ (∀ query ∈ own, About query ∧ query ∉ before) ∧
      let asked := questions
        (PassTranscript.requests ((inquiry.pursue continuation).execute interpret position table))
      asked = own ∨ ∃ verdict tally later after, asked = own ++ questions
        (PassTranscript.requests ((continuation verdict tally).execute interpret later after)) := by
  induction inquiry generalizing decided before position table with
  | settled verdict tally =>
      exact ⟨[], List.nodup_nil, by simp, .inr ⟨verdict, tally, position, table, rfl⟩⟩
  | ask query next ih =>
      obtain ⟨_, about, replies⟩ := sound
      cases replied : (interpret position (.ask query) table).1 with
      | error error =>
          refine ⟨[query], List.nodup_singleton query, ?_, .inl ?_⟩
          · rintro other listed
            rw [List.mem_singleton.mp listed]
            exact ⟨about, once.1⟩
          · simp only [Inquiry.pursue, Program.execute_call, replied]
            rfl
      | ok reply =>
          obtain ⟨own, distinct, new, follows⟩ := ih reply (replies reply) (once.2 reply)
            (position + 1) (interpret position (.ask query) table).2
          refine ⟨query :: own, List.nodup_cons.mpr ⟨fun again => ?_, distinct⟩, ?_, ?_⟩
          · exact (new query again).2 List.mem_cons_self
          · intro other listed
            cases listed with
            | head => exact ⟨about, once.1⟩
            | tail _ later =>
                exact ⟨(new other later).1, fun seen =>
                  (new other later).2 (List.mem_cons_of_mem _ seen)⟩
          · simp only [Inquiry.pursue, Program.execute_call, replied]
            rcases follows with only | ⟨verdict, tally, later, after, rest⟩
            · exact .inl (congrArg (query :: ·) only)
            · exact .inr ⟨verdict, tally, later, after, congrArg (query :: ·) rest⟩

variable (interpret) in
/-- Recording a verdict asks nothing. -/
theorem questions_record (routine : Routine Row Ask Reply Summary) (row : Row)
    (verdict : Verdict) (continuation : Recorded → Pass Row Ask Reply Summary) (position : Nat)
    (table : List Row) :
    ∃ recorded later after,
      questions (PassTranscript.requests
        ((routine.record row verdict continuation).execute interpret position table)) =
      questions (PassTranscript.requests
        ((continuation recorded).execute interpret later after)) := by
  obtain ⟨recorded, _, _, requests⟩ :=
    execute_record routine interpret row verdict continuation position table
  refine ⟨recorded, position + 1,
    (interpret position (routine.recording row verdict) table).2, ?_⟩
  rw [requests]
  cases verdict <;> rfl

end Execute

section Service

variable {service : Service Worker Row Ask Summary Arrival Receipt Body Reply}
variable {worker : Worker} {contexts : Nat → Context Row Ask Reply}
variable {others : Nat → List Row → List Row} {table : List Row}

theorem mem_questions {requests : List (Call Ask)} {query : Ask} :
    query ∈ questions requests ↔ .ask query ∈ requests := by
  simp only [questions, List.mem_filterMap, Call.asked_eq_some]
  exact ⟨fun ⟨_, membership, same⟩ => same ▸ membership, fun membership =>
    ⟨_, membership, rfl⟩⟩

/-- A batch without repetition asks nothing twice. -/
theorem nodup_questions_deliver
    (once : ∀ row, ((service.routine worker).inquire row).Once [])
    {interpret : Nat → (request : Call Ask) → List Row → Answer Row Reply request × List Row}
    (summary : Summary) {rows : List Row} (distinct : rows.Nodup) (position : Nat)
    (table : List Row) :
    (questions (PassTranscript.requests (((service.routine worker).deliver summary rows).execute
      interpret position table))).Nodup := by
  induction rows generalizing summary position table with
  | nil => exact List.nodup_nil
  | cons row rows ih =>
      rw [List.nodup_cons] at distinct
      obtain ⟨own, ownDistinct, about, only | ⟨verdict, tally, later, after, follows⟩⟩ :=
        questions_pursue interpret (fun verdict tally =>
          (service.routine worker).record row verdict fun recorded =>
            (service.routine worker).deliver (tally recorded summary) rows)
          (service.inquire_sound worker row) (once row) position table
      · exact only.symm ▸ ownDistinct
      · obtain ⟨recorded, next, rest, recording⟩ := questions_record interpret
          (service.routine worker) row verdict
          (fun recorded => (service.routine worker).deliver (tally recorded summary) rows)
          later after
        rw [recording] at follows
        refine follows.symm ▸ ownDistinct.append (ih _ distinct.2 next rest) ?_
        -- What is asked later is about another row.
        intro query ofRow ofRest
        obtain ⟨call, performed, asks⟩ := List.mem_map.mp (mem_questions.mp ofRest)
        have subject := subject_mem_of_deliver _ _ _ _ performed asks
        rw [(about query ofRow).1.1] at subject
        exact distinct.1 subject

/-- A pass asks nothing twice. -/
theorem nodup_questions_pass (once : ∀ row, ((service.routine worker).inquire row).Once [])
    (distinct : (table.map service.store.id).Nodup) :
    (questions (service.pass worker contexts alone table).requests).Nodup := by
  rw [service.pass_eq]
  have rows := List.Nodup.of_map service.store.id
    (Lent.of_claim worker contexts distinct).rows_distinct
  exact nodup_questions_deliver once _ rows 2 _

/-- A question is asked by one call. -/
theorem call_unique {performed : List (Performed (Call Ask) (Answer Row Reply))}
    (distinct : (questions (performed.map Performed.request)).Nodup)
    {left right : Performed (Call Ask) (Answer Row Reply)} (leftMem : left ∈ performed)
    (rightMem : right ∈ performed) {query : Ask} (leftAsks : left.request = .ask query)
    (rightAsks : right.request = .ask query) : left = right := by
  induction performed with
  | nil => simp at leftMem
  | cons call performed ih =>
      -- No other call asks what the first one asks.
      have apart : call.request = .ask query → ∀ other ∈ performed,
          other.request = .ask query → False := by
        intro asks other membership asksToo
        rw [List.map_cons, asks] at distinct
        refine (List.nodup_cons.mp distinct).1 (mem_questions.mpr ?_)
        exact asksToo ▸ List.mem_map_of_mem membership
      have rest : (questions (performed.map Performed.request)).Nodup :=
        distinct.sublist ((List.sublist_cons_self _ _).filterMap _)
      cases leftMem with
      | head =>
          cases rightMem with
          | head => rfl
          | tail _ rightMem => exact (apart leftAsks right rightMem rightAsks).elim
      | tail _ leftMem =>
          cases rightMem with
          | head => exact (apart rightAsks left leftMem leftAsks).elim
          | tail _ rightMem => exact ih rest leftMem rightMem

/-- The callbacks answer the same whenever they are asked. -/
def answeringAs (contexts : Nat → Context Row Ask Reply) (answers : (query : Ask) → Reply query)
    (position : Nat) : Context Row Ask Reply :=
  { contexts position with reply := fun query => .ok (answers query) }

variable (service worker contexts table) in
/-- These answers are the ones that the callbacks of a pass give. -/
structure Describes (answers : (query : Ask) → Reply query) : Prop where
  answered : ∀ call ∈ (service.pass worker contexts alone table).performed, ∀ query,
    call.request = .ask query → (contexts call.position).reply query = .ok (answers query)
  same : service.pass worker (answeringAs contexts answers) alone table =
    service.pass worker contexts alone table

/-- Callbacks that return can be described by one answer to each question. -/
theorem exists_answers (once : ∀ row, ((service.routine worker).inquire row).Once [])
    (returns : ∀ position query, ∃ reply, (contexts position).reply query = .ok reply)
    (distinct : (table.map service.store.id).Nodup) :
    ∃ answers, Describes service worker contexts table answers := by
  classical
  let performed := (service.pass worker contexts alone table).performed
  -- The answer to a question is that of the call that asks it.
  let answers : (query : Ask) → Reply query := fun query =>
    if asked : ∃ call ∈ performed, call.request = .ask query then
      (returns asked.choose.position query).choose
    else (returns 0 query).choose
  have replied : ∀ call ∈ performed, ∀ query, call.request = .ask query →
      (contexts call.position).reply query = .ok (answers query) := by
    intro call membership query asks
    have asked : ∃ call ∈ performed, call.request = .ask query := ⟨call, membership, asks⟩
    have same : asked.choose = call := call_unique (nodup_questions_pass once distinct)
      asked.choose_spec.1 membership asked.choose_spec.2 asks
    simp only [answers, asked, dite_true]
    rw [same]
    exact (returns call.position query).choose_spec
  refine ⟨answers, replied, Program.execute_congr fun call membership store => ?_⟩
  cases request : call.request with
  | ask query =>
      simp only [Store.interpret, Store.perform, answeringAs, replied call membership query request]
  | utcnow | reclaimAndClaim | markDone | handleRetryableFailure | markFailed => rfl

end Service

end Pactix.Worker
