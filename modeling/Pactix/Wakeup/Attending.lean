import Pactix.Wakeup.Serving
import Pactix.Worker.Waiting

/-!
# What a signal leads to

After a signal the loop starts a pass, and the drain that it starts goes on until a claim gets
nothing.  That claim has met every row that was committed by the time of the signal.
-/

namespace Pactix.Wakeup

open Foundation (Machine Program Protocol)
open Queue (Entry sweep)
open Worker (Call Context Pass Service Simulates)

/-! ## The drains of the loop -/

/-- What a step of the loop is to its worker. -/
inductive Drain (state : State) : Label → State → Prop where
  | start (label : Label) (after : State) (started : starts state after = true)
      (drains : after.phase.drains = true) : Drain state label after
  | signal (source : Source) (after : State) (idle : starts state after = false)
      (phase : after.phase = state.phase)
      (noted : after.history = .signal source :: state.history) :
      Drain state (.signal source) after
  | finish (claimed : Nat) (after : State) (idle : starts state after = false)
      (drained : state.phase.drains = true) (waits : after.phase.drains = false)
      (unserved : Served after.history → Served state.history) :
      Drain state (.returned claimed) after
  | other (label : Label) (after : State) (idle : starts state after = false)
      (quiet : ∀ source, label ≠ .signal source) (unreturned : label.count = none)
      (phase : after.phase = .stopped ∨
        after.phase.drains = state.phase.drains ∧ state.phase ≠ .stopped)
      (unserved : Served after.history → Served state.history) : Drain state label after

/-- A wait or the end of a drain serves no signal. -/
theorem Served.of_cons {history : List Moment} {moment : Moment}
    (served : Served (moment :: history)) (other : moment ≠ .pass) : Served history := by
  intro later source earlier same
  have listed := served (moment :: later) source earlier (by rw [same]; rfl)
  exact (List.mem_cons.mp listed).resolve_left (Ne.symm other)

theorem drain_of_step {runner : WakeupRunner} {state after : State} {label : Label}
    (stepped : step runner state label = some after) : Drain state label after := by
  cases stepped_of_step stepped with
  | signal source listens => exact .signal source _ (by simp [starts]) rfl rfl
  | begin created enabled =>
      apply Drain.other
      · simp [starts, State.waitForWake]
      · simp
      · rfl
      · right
        simp only [State.waitForWake, created]
        split <;> simp [Phase.drains]
      · exact fun served => served.of_cons (by simp)
  | advance source event ready advanced =>
      by_cases stopped : state.phase = .stopped
      · exact .other _ _ (by simp [starts]) (by simp) rfl (.inl stopped) id
      · exact .other _ _ (by simp [starts]) (by simp) rfl (.inr ⟨rfl, stopped⟩) id
  | connect | refuse =>
      by_cases stopped : state.phase = .stopped
      · exact .other _ _ (by simp [starts]) (by simp) rfl (.inl stopped) id
      · exact .other _ _ (by simp [starts]) (by simp) rfl (.inr ⟨rfl, stopped⟩) id
  | slept | gathered | passed =>
      exact .start _ _ (by simp [starts, State.startPass, State.collect]) rfl
  | release label waiting released =>
      have quiet : (∀ source, label ≠ .signal source) ∧ label.count = none := by
        rcases released with rfl | ⟨rfl, _⟩ <;> exact ⟨by simp, rfl⟩
      exact .other _ _ (by simp [starts]) quiet.1 quiet.2
        (.inr ⟨by rw [waiting]; rfl, by simp [waiting]⟩) id
  | resume waiting =>
      exact .other _ _ (by simp [starts, State.gather]) (by simp) rfl
        (.inr ⟨by rw [waiting]; rfl, by simp [waiting]⟩) id
  | raised => exact .other _ _ (by simp [starts, State.collect]) (by simp) rfl (.inl rfl) id
  | drained passes found claimed foundWork passing last =>
      apply Drain.finish
      · simp [starts, State.drained, State.waitForWake]
      · rw [passing]
        rfl
      · simp only [State.drained, State.waitForWake]
        split <;> rfl
      · exact fun served => (served.of_cons (by simp)).of_cons (by simp)
  | interrupt waits =>
      have running : state.phase.drains = false ∧ state.phase ≠ .stopped := by
        cases phase : state.phase <;> simp_all [Phase.waits, Phase.drains]
      exact .other _ _ (by simp [starts, State.gather]) (by simp) rfl
        (.inr ⟨running.1.symm, running.2⟩) id
  | stop label idle ended =>
      have quiet : (∀ source, label ≠ .signal source) ∧ label.count = none := by
        rcases ended with rfl | ⟨rfl, _⟩ <;> exact ⟨by simp, rfl⟩
      exact .other _ _ (by simp [starts]) quiet.1 quiet.2 (.inl rfl) id

/-! ## Claims that get nothing -/

variable {Member Row Ask Summary Arrival Receipt Body : Type} {Reply : Ask → Type}

section Looks

variable (service : Service Member Row Ask Summary Arrival Receipt Body Reply)

/-- A claim has met every row of the table, and what it could have taken was locked. -/
def Looks (table : List Row) (survey : Survey Row) : Prop :=
  let met := sweep survey.now.instant (survey.table.map service.entry)
  ∀ row ∈ table, ∃ stored ∈ met, stored.card = (service.entry row).card ∧
    (stored.Ready (decide (survey.query = .fifo)) survey.now.instant met →
      survey.locked stored.card.id = true)

/-- A later claim has looked at the table and got nothing, or the loop has given up claiming
after its last pass. -/
def LookedAfter (table : List Row) (later : List (Occurrence Row)) : Prop :=
  .exhausted ∈ later ∨
    ∃ survey, .survey survey ∈ later ∧ survey.claimed = 0 ∧ Looks service table survey

/-- The rows are still there, with the fields that never change. -/
def Kept (table current : List Row) : Prop :=
  ∀ row ∈ table, ∃ stored ∈ current, (service.entry stored).card = (service.entry row).card

variable {service}

theorem LookedAfter.append {table : List Row} {later : List (Occurrence Row)}
    (answered : LookedAfter service table later) (added : List (Occurrence Row)) :
    LookedAfter service table (later ++ added) := by
  rcases answered with exhausted | ⟨survey, noted, empty, looks⟩
  · exact .inl (List.mem_append_left _ exhausted)
  · exact .inr ⟨survey, List.mem_append_left _ noted, empty, looks⟩

/-- A claim that gets nothing leaves nothing behind that it could have taken. -/
theorem looks_of_empty (oldest : service.store.TakesOldest service.entry service.batchSize)
    {worker : Member} (positive : 0 < service.batchSize worker) {survey : Survey Row}
    {choices : Foundation.Choices Row UUID} (locks : survey.locked = choices.locked)
    (offered : service.store.offers survey.query)
    (distinct : (survey.table.map service.store.id).Nodup)
    (empty : (service.store.reclaimAndClaim worker survey.query choices survey.now
      survey.table).1.2 = []) {table : List Row} (kept : Kept service table survey.table) :
    Looks service table survey := by
  intro row listed
  obtain ⟨current, present, card⟩ := kept row listed
  have listed : (service.entry row).card ∈
      (sweep survey.now.instant (survey.table.map service.entry)).map Entry.card := by
    rw [Queue.cards_sweep, ← card]
    exact List.mem_map_of_mem (List.mem_map_of_mem present)
  obtain ⟨stored, swept, same⟩ := List.mem_map.mp listed
  refine ⟨stored, swept, same, fun ready => ?_⟩
  -- A free row would have been taken, or a full batch in its place.
  by_contra free
  have passed := oldest worker survey.query offered choices survey.now survey.table distinct
    stored swept ready (by rw [← locks]; simpa using free)
  rw [empty] at passed
  have length := (passed (by simp)).1
  simp only [List.length_nil] at length
  omega

end Looks

namespace Serving

/-! ## The worker of the loop -/

section Accompany

variable [DecidableEq Member] {runner : WakeupRunner}
variable {service : Service Member Row Ask Summary Arrival Receipt Body Reply}
variable {own : Member} {claimed : Summary → Nat} {before after : Wakeup.State}
variable {workers later : Worker.State Member Row Ask Summary Arrival Receipt Reply}

/-- To go along with the loop is a step of the workers, or none. -/
theorem accompany_steps (accompanied : accompany service own before after workers = some later) :
    later = workers ∨ Worker.step service workers (.spawn own) = some later ∨
      Worker.step service workers (.crash own) = some later := by
  unfold accompany at accompanied
  split at accompanied
  · exact .inr (.inl accompanied)
  · split at accompanied
    · exact .inr (.inr accompanied)
    · exact .inl (Option.some.inj accompanied).symm

theorem table_accompany (accompanied : accompany service own before after workers = some later) :
    later.table = workers.table := by
  rcases accompany_steps accompanied with rfl | spawned | crashed
  · rfl
  · cases Worker.stepped_of_step spawned
    rfl
  · cases Worker.stepped_of_step crashed
    rfl

theorem program_spawned (started : starts before after = true)
    (accompanied : accompany service own before after workers = some later) :
    (later.process own).program = some (service.runOnce own) := by
  rw [accompany, if_pos started] at accompanied
  cases Worker.stepped_of_step accompanied
  simp

/-- Within a drain the worker goes on with its pass. -/
theorem accompany_draining (idle : starts before after = false)
    (phase : after.phase.drains = before.phase.drains)
    (accompanied : accompany service own before after workers = some later) : later = workers := by
  simp only [accompany, idle, phase, Bool.false_eq_true, if_false, Bool.and_not_self] at accompanied
  exact (Option.some.inj accompanied).symm

end Accompany

/-! ## The surveys of the loop -/

section Surveys

variable [DecidableEq Member] {runner : WakeupRunner}
variable {service : Service Member Row Ask Summary Arrival Receipt Body Reply}
variable {own : Member} {claimed : Summary → Nat}
variable {state : Serving Member Row Ask Summary Arrival Receipt Reply}
variable {workers : Worker.State Member Row Ask Summary Arrival Receipt Reply}
variable {label : Worker.Label Member Row Ask Arrival Reply} {notes : List (Occurrence Row)}

/-- The pass of the loop's worker is known by its claim. -/
theorem counts_step {program : Pass Row Ask Reply Summary}
    (running : (state.workers.process own).program = some program)
    (counts : (counting claimed).Keeps program ((surveyed notes).map Survey.claimed))
    (others : label ≠ .spawn own ∧ label ≠ .crash own)
    (stepped : Worker.step service state.workers label = some workers) :
    ∃ rest, (workers.process own).program = some rest ∧
      (counting claimed).Keeps rest ((surveyed
        (notes ++ state.occurrences runner service own (.workers label))).map Survey.claimed) := by
  cases Worker.stepped_of_step stepped with
  | receive | reject => exact ⟨program, running, by simpa [occurrences] using counts⟩
  | spawn worker =>
      have other : own ≠ worker := fun same => others.1 (same ▸ rfl)
      exact ⟨program, by simpa [other] using running, by simpa [occurrences] using counts⟩
  | crash worker =>
      have other : own ≠ worker := fun same => others.2 (same ▸ rfl)
      exact ⟨program, by simpa [other] using running, by simpa [occurrences] using counts⟩
  | act worker context request resume performing =>
      by_cases actor : worker = own
      · subst actor
        obtain rfl := Option.some.inj (running.symm.trans performing)
        obtain ⟨after, next, keeps⟩ :=
          counts (service.store.perform worker context request state.workers.table).1
        refine ⟨_, Worker.program_act state.workers worker context request resume, ?_⟩
        have requests := Worker.request_of_running performing
        generalize answered :
          (service.store.perform worker context request state.workers.table).1 = answer
          at next keeps
        generalize counted : (surveyed notes).map Survey.claimed = count at next
        cases next with
        | claim query now answer =>
            subst answered
            simpa [occurrences, requests, Worker.Store.perform] using keeps
        | other _ _ quiet =>
            have unnoted : state.occurrences runner service worker
                (.workers (.act worker context)) = [] := by
              simp only [occurrences, if_true, requests]
              cases request <;> simp_all
            rw [unnoted, List.append_nil, counted]
            exact keeps
      · refine ⟨program, ?_, by simpa [occurrences, actor] using counts⟩
        rw [Worker.program_act_of_ne state.workers (Ne.symm actor)]
        exact running

/-- No step loses a row. -/
theorem kept_step {queue : Worker.QueueState Member Body}
    (simulates : Simulates service state.workers queue)
    (stepped : Worker.step service state.workers label = some workers) {table : List Row}
    (kept : Kept service table state.workers.table) : Kept service table workers.table := by
  intro row listed
  obtain ⟨stored, present, card⟩ := kept row listed
  have within : (state.workers.table.map service.entry).map Entry.card ⊆
      (workers.table.map service.entry).map Entry.card := by
    rcases simulates.mirrored stepped with ⟨_, silent⟩ | ⟨_, _, answered, _, after⟩
    · rw [← simulates.entries, ← silent.entries]
      exact List.Subset.refl _
    · rw [← simulates.entries, ← after.entries]
      exact Queue.cards_subset_step answered
  have grown := within (List.mem_map_of_mem (List.mem_map_of_mem present))
  obtain ⟨entry, listed, same⟩ := List.mem_map.mp grown
  obtain ⟨later, present, rfl⟩ := List.mem_map.mp listed
  exact ⟨later, present, same.trans card⟩

omit [DecidableEq Member] in
theorem offered_of_request {queue : Worker.QueueState Member Body}
    (simulates : Simulates service state.workers queue) {worker : Member} {query : ClaimQuery}
    {now : DateTime}
    (requests : state.workers.request worker = some (.reclaimAndClaim query now)) :
    service.store.offers query := by
  unfold Worker.State.request at requests
  split at requests
  next request resume running =>
    obtain rfl := Option.some.inj requests
    obtain ⟨_, _, _, _, conforms⟩ := (simulates.follows worker).program _ _ running
    exact conforms.2.2.1 ▸ service.offered worker
  next => cases requests

variable (runner service own state) in
/-- The workers show at most a survey. -/
theorem occurrences_workers (label : Worker.Label Member Row Ask Arrival Reply) :
    state.occurrences runner service own (.workers label) = [] ∨
      ∃ survey, state.occurrences runner service own (.workers label) = [.survey survey] := by
  cases label with
  | receive | spawn | crash => exact .inl rfl
  | act worker context =>
      simp only [occurrences]
      split
      · split
        · exact .inr ⟨_, rfl⟩
        · exact .inl rfl
      · exact .inl rfl

/-- A survey that has got nothing has looked at every table that the current one keeps. -/
theorem looks_step {queue : Worker.QueueState Member Body}
    (simulates : Simulates service state.workers queue)
    (oldest : service.store.TakesOldest service.entry service.batchSize)
    (positive : 0 < service.batchSize own)
    {survey : Survey Row}
    (noted : state.occurrences runner service own (.workers label) = [.survey survey])
    (empty : survey.claimed = 0) {table : List Row}
    (kept : Kept service table state.workers.table) : Looks service table survey := by
  cases label with
  | receive | spawn | crash => simp [occurrences] at noted
  | act worker context =>
      simp only [occurrences] at noted
      split at noted
      next actor =>
        subst actor
        split at noted
        next query now requests =>
          obtain rfl := Occurrence.survey.inj (List.singleton_inj.mp noted)
          exact looks_of_empty oldest positive rfl (offered_of_request simulates requests)
            simulates.ids_nodup
            (List.length_eq_zero_iff.mp empty) kept
        next => cases noted
      next => cases noted

end Surveys

end Serving

/-! ## The invariant -/

section Attending

variable (service : Service Member Row Ask Summary Arrival Receipt Body Reply)

/-- What has become of a signal, after what has been noted since. -/
structure Followed (notes : List (Occurrence Row))
    (state : Serving Member Row Ask Summary Arrival Receipt Reply) (table : List Row)
    (later : List (Occurrence Row)) : Prop where
  kept : Kept service table state.workers.table
  unserved : .pass ∉ later → ¬Served state.loop.history
  /-- While the drain goes on, the survey of its pass has met the table. -/
  answered : .pass ∈ later → LookedAfter service table later ∨ state.loop.phase = .stopped ∨
    state.loop.phase.drains = true ∧ ∀ survey, surveyed notes = some survey →
      .survey survey ∈ later ∧ (survey.claimed = 0 → Looks service table survey)

/-- Every signal is still to be served, or is being served, or has been answered. -/
structure Attending (runner : WakeupRunner) (own : Member) (claimed : Summary → Nat)
    (notes : List (Occurrence Row))
    (state : Serving Member Row Ask Summary Arrival Receipt Reply) : Prop where
  attentive : Attentive runner state.loop
  simulated : ∃ queue, Simulates service state.workers queue
  counts : state.loop.phase.drains = true → ∃ program,
    (state.workers.process own).program = some program ∧
      (counting claimed).Keeps program ((surveyed notes).map Survey.claimed)
  signals : ∀ source table later, Since notes (.signal source table) later →
    Followed service notes state table later

variable {service} {runner : WakeupRunner} {own : Member} {claimed : Summary → Nat}
variable {notes : List (Occurrence Row)}
variable {state : Serving Member Row Ask Summary Arrival Receipt Reply}

theorem Attending.initial (clock : Int) :
    Attending service runner own claimed [] (.initial runner clock) where
  attentive := .initial runner
  simulated := ⟨_, .initial clock⟩
  counts draining := by cases draining
  signals source table later since := absurd since since_nil

variable [DecidableEq Member]

/-- The workers take a step. -/
theorem Attending.workers (attending : Attending service runner own claimed notes state)
    (oldest : service.store.TakesOldest service.entry service.batchSize)
    (positive : 0 < service.batchSize own)
    {label : Worker.Label Member Row Ask Arrival Reply}
    {workers : Worker.State Member Row Ask Summary Arrival Receipt Reply}
    (others : label ≠ .spawn own ∧ label ≠ .crash own)
    (stepped : Worker.step service state.workers label = some workers) :
    Attending service runner own claimed
      (notes ++ state.occurrences runner service own (.workers label)) { state with workers } := by
  obtain ⟨queue, simulates⟩ := attending.simulated
  refine ⟨attending.attentive, ?_, ?_, ?_⟩
  · rcases simulates.mirrored stepped with ⟨_, silent⟩ | ⟨_, _, _, _, after⟩
    · exact ⟨_, silent⟩
    · exact ⟨_, after⟩
  · intro draining
    obtain ⟨program, running, counts⟩ := attending.counts draining
    exact Serving.counts_step running counts others stepped
  · intro source table later since
    rcases Serving.occurrences_workers runner service own state label with
      none | ⟨survey, noted⟩
    · rw [none, List.append_nil] at since ⊢
      have followed := attending.signals source table later since
      exact ⟨Serving.kept_step simulates stepped followed.kept, followed.unserved,
        followed.answered⟩
    · rw [noted] at since ⊢
      rcases since_append.mp since with ⟨before, earlier, rfl⟩ | last
      · have followed := attending.signals source table before earlier
        refine ⟨Serving.kept_step simulates stepped followed.kept,
          fun unserved => followed.unserved (by simpa using unserved), fun passed => ?_⟩
        rcases followed.answered (by simpa using passed) with answered | stopped | ⟨draining, _⟩
        · exact .inl (answered.append _)
        · exact .inr (.inl stopped)
        · refine .inr (.inr ⟨draining, fun latest same => ?_⟩)
          rw [surveyed_survey, Option.some.injEq] at same
          subst same
          exact ⟨List.mem_append_right _ (List.mem_singleton_self _), fun empty =>
            Serving.looks_step simulates oldest positive noted empty followed.kept⟩
      · exact absurd (since_single.mp last).1 nofun

omit [DecidableEq Member] in
/-- The pass that has returned has claimed as many rows as its survey says. -/
theorem Attending.surveyed (attending : Attending service runner own claimed notes state)
    (draining : state.loop.phase.drains = true) {count : Nat}
    (returned : (state.returned own).map claimed = some count) :
    ∃ survey, Wakeup.surveyed notes = some survey ∧ survey.claimed = count := by
  obtain ⟨program, running, counts⟩ := attending.counts draining
  obtain ⟨summary, ended, rfl⟩ := Option.map_eq_some_iff.mp returned
  simp only [Serving.returned, running] at ended
  split at ended
  next finished same =>
    obtain rfl := Option.some.inj same
    obtain rfl := Option.some.inj ended
    exact Option.map_eq_some_iff.mp (counts _ rfl)
  next => cases ended

/-- The loop takes a step, and its worker goes along. -/
theorem Attending.loop (attending : Attending service runner own claimed notes state)
    (counts : (counting claimed).Keeps (service.runOnce own) none) {label : Label}
    {loop : State} {workers : Worker.State Member Row Ask Summary Arrival Receipt Reply}
    (agrees : ∀ count ∈ label.count, (state.returned own).map claimed = some count)
    (looped : step runner state.loop label = some loop)
    (accompanied : Serving.accompany service own state.loop loop state.workers = some workers) :
    Attending service runner own claimed
      (notes ++ state.occurrences runner service own (.loop label)) { loop, workers } := by
  have table := Serving.table_accompany accompanied
  have attentive := attending.attentive.step looped
  have simulated : ∃ queue, Simulates service workers queue := by
    obtain ⟨queue, simulates⟩ := attending.simulated
    have moved : ∀ {label}, Worker.step service state.workers label = some workers →
        ∃ queue, Simulates service workers queue := by
      intro label stepped
      rcases simulates.mirrored stepped with ⟨_, silent⟩ | ⟨_, _, _, _, after⟩
      · exact ⟨_, silent⟩
      · exact ⟨_, after⟩
    rcases Serving.accompany_steps accompanied with rfl | spawned | crashed
    · exact ⟨queue, simulates⟩
    · exact moved spawned
    · exact moved crashed
  cases drain_of_step looped with
  | start _ _ started drains =>
      have noted : state.occurrences runner service own (.loop label) = [.pass] := by
        simp [Serving.occurrences, looped, started]
      rw [noted]
      refine ⟨attentive, simulated, fun _ => ?_, fun source signalled later since => ?_⟩
      · rw [surveyed_pass]
        exact ⟨_, Serving.program_spawned started accompanied, counts⟩
      · rcases since_append.mp since with ⟨before, earlier, rfl⟩ | last
        · have followed := attending.signals source signalled before earlier
          refine ⟨table ▸ followed.kept, fun unpassed => absurd (by simp) unpassed, fun _ => ?_⟩
          refine .inr (.inr ⟨drains, fun survey same => ?_⟩)
          rw [surveyed_pass] at same
          cases same
        · exact absurd (since_single.mp last).1 nofun
  | signal source _ idle phase recorded =>
      have noted : state.occurrences runner service own (.loop (.signal source)) =
          [.signal source state.workers.table] := by
        simp [Serving.occurrences, looped, idle]
      obtain rfl := Serving.accompany_draining idle (by rw [phase]) accompanied
      have unserved : ¬Served loop.history := recorded ▸ not_served_signal source _
      rw [noted]
      refine ⟨attentive, simulated, fun draining => ?_, fun other signalled later since => ?_⟩
      · rw [surveyed_signal]
        exact attending.counts (phase ▸ draining)
      · rcases since_append.mp since with ⟨before, earlier, rfl⟩ | last
        · have followed := attending.signals other signalled before earlier
          refine ⟨followed.kept, fun _ => unserved, fun passed => ?_⟩
          rw [surveyed_signal, phase]
          rcases followed.answered (by simpa using passed) with answered | stopped | drains
          · exact .inl (answered.append _)
          · exact .inr (.inl stopped)
          · exact .inr (.inr ⟨drains.1, fun survey same =>
              ⟨List.mem_append_left _ (drains.2 survey same).1, (drains.2 survey same).2⟩⟩)
        · obtain ⟨same, rfl⟩ := since_single.mp last
          obtain ⟨rfl, rfl⟩ := Occurrence.signal.inj same
          exact ⟨fun row listed => ⟨row, listed, rfl⟩, fun _ => unserved,
            fun passed => absurd passed List.not_mem_nil⟩
  | finish count _ idle drained waits unserved =>
      have noted : state.occurrences runner service own (.loop (.returned count)) =
          if count = 0 then [] else [.exhausted] := by
        simp [Serving.occurrences, looped, idle]
      rw [noted]
      refine ⟨attentive, simulated, fun draining => ?_, fun source signalled later since => ?_⟩
      · rw [waits] at draining
        cases draining
      · by_cases zero : count = 0
        · rw [if_pos zero, List.append_nil] at since
          have followed := attending.signals source signalled later since
          refine ⟨table ▸ followed.kept, fun unpassed => mt unserved (followed.unserved unpassed),
            fun passed => .inl ?_⟩
          rcases followed.answered passed with answered | stopped | ⟨_, looks⟩
          · exact answered
          · rw [stopped] at drained
            cases drained
          · obtain ⟨survey, latest, rfl⟩ := attending.surveyed drained (agrees count rfl)
            exact .inr ⟨survey, (looks survey latest).1, zero, (looks survey latest).2 zero⟩
        · rw [if_neg zero] at since
          rcases since_append.mp since with ⟨before, earlier, rfl⟩ | last
          · have followed := attending.signals source signalled before earlier
            exact ⟨table ▸ followed.kept,
              fun unpassed => mt unserved (followed.unserved (by simpa using unpassed)),
              fun _ => .inl (.inl (List.mem_append_right _ (List.mem_singleton_self _)))⟩
          · exact absurd (since_single.mp last).1 nofun
  | other _ _ idle quiet unreturned phase unserved =>
      have noted : state.occurrences runner service own (.loop label) = [] := by
        cases label with
        | signal source => exact absurd rfl (quiet source)
        | returned count => cases unreturned
        | _ => simp [Serving.occurrences, looped, idle]
      rw [noted, List.append_nil]
      refine ⟨attentive, simulated, fun draining => ?_, fun source signalled later since => ?_⟩
      · rcases phase with stopped | ⟨same, _⟩
        · simp [stopped, Phase.drains] at draining
        · obtain rfl := Serving.accompany_draining idle same accompanied
          exact attending.counts (same ▸ draining)
      · have followed := attending.signals source signalled later since
        refine ⟨table ▸ followed.kept, fun unpassed => mt unserved (followed.unserved unpassed),
          fun passed => ?_⟩
        rcases phase with stopped | ⟨same, running⟩
        · exact .inr (.inl stopped)
        · rcases followed.answered passed with answered | stopped | drains
          · exact .inl answered
          · exact absurd stopped running
          · exact .inr (.inr ⟨same ▸ drains.1, drains.2⟩)

theorem Attending.step (attending : Attending service runner own claimed notes state)
    (counts : (counting claimed).Keeps (service.runOnce own) none)
    (oldest : service.store.TakesOldest service.entry service.batchSize)
    (positive : 0 < service.batchSize own) {label : ServingLabel Member Row Ask Arrival Reply}
    {after : Serving Member Row Ask Summary Arrival Receipt Reply}
    (stepped : Serving.step runner service own claimed state label = some after) :
    Attending service runner own claimed
      (notes ++ state.occurrences runner service own label) after := by
  cases Serving.stepped_of_step stepped with
  | loop label loop workers agrees looped accompanied =>
      exact attending.loop counts agrees looped accompanied
  | workers label workers others worked => exact attending.workers oldest positive others worked

/-- Every signal of a run is attended to. -/
theorem attending_of_observed (counts : (counting claimed).Keeps (service.runOnce own) none)
    (oldest : service.store.TakesOldest service.entry service.batchSize)
    (positive : 0 < service.batchSize own) {clock : Int}
    (observed : (Serving.machine runner service own claimed).Observed Machine.Free
      (Serving.occurrences runner service own) (.initial runner clock) notes state) :
    Attending service runner own claimed notes state :=
  Machine.observed_invariant (Attending service runner own claimed)
    (fun _ stepped attending => attending.step counts oldest positive stepped) observed
    (.initial clock)

end Attending

end Pactix.Wakeup
