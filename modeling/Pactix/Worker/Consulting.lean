import Pactix.Worker.Runs

/-!
# Consulted records

Every record that a callback is asked about is a copy of a stored row, as far as the fixed
columns go.
-/

namespace Pactix.Worker

open Foundation Queue

variable {Worker Row Ask Summary Arrival Receipt Body : Type} {Reply : Ask → Type}
variable {service : Service Worker Row Ask Summary Arrival Receipt Body Reply}
variable [DecidableEq Worker]
variable {state after : State Worker Row Ask Summary Arrival Receipt Reply}
  {queue : QueueState Worker Body}

omit [DecidableEq Worker] in
/-- A record that a worker holds has the card of a stored row. -/
theorem Simulates.held_stored (simulates : Simulates service state queue) {worker : Worker}
    {record : Row} (held : record ∈ (state.process worker).held) :
    ∃ row ∈ state.table, (service.entry row).card = (service.entry record).card := by
  have known := (simulates.sound.sessions worker).held_known _ (simulates.mem_held held)
  rw [Queue.State.cards, simulates.entries, List.map_map, List.mem_map] at known
  exact known

/-- The worker that a step is about. -/
def Label.actor : Label Worker Row Ask Arrival Reply → Option Worker
  | .receive _ => none
  | .spawn worker | .crash worker | .act worker _ => some worker

/-- A step leaves the next calls of other workers as they are. -/
theorem request_step {label : Label Worker Row Ask Arrival Reply}
    (stepped : step service state label = some after) {worker : Worker}
    (other : label.actor ≠ some worker) : after.request worker = state.request worker := by
  suffices same : (after.process worker).program = (state.process worker).program by
    rw [State.request, State.request, same]
  cases stepped_of_step stepped with
  | receive | reject => rfl
  | spawn actor | crash actor =>
      have different : worker ≠ actor := fun same => other (congrArg some same.symm)
      simp only [Function.update_of_ne different]
  | act actor context request resume running =>
      have different : worker ≠ actor := fun same => other (congrArg some same.symm)
      simp only [act, different, if_false]
      cases request <;> rfl

/-- What a step adds to the replies is the reply to a call that asks. -/
theorem consulted_step {label : Label Worker Row Ask Arrival Reply}
    (stepped : step service state label = some after) :
    after.consulted = state.consulted ∨ ∃ worker context query reply,
      label = .act worker context ∧ state.request worker = some (.ask query) ∧
        context.reply query = .ok reply ∧
        after.consulted = ⟨worker, query, reply⟩ :: state.consulted := by
  cases stepped_of_step stepped with
  | receive | reject | spawn | crash => exact .inl rfl
  | act worker context request resume running =>
      cases request with
      | utcnow | reclaimAndClaim | markDone | handleRetryableFailure | markFailed => exact .inl rfl
      | ask query =>
          cases replied : context.reply query with
          | error error =>
              left
              simp only [act, Store.perform, replied]
              rfl
          | ok reply =>
              refine .inr ⟨worker, context, query, reply, rfl, request_of_running running,
                replied, ?_⟩
              simp only [act, Store.perform, replied]
              rfl

/-- The fixed columns of a consulted record are those of a stored row. -/
def Consulted (service : Service Worker Row Ask Summary Arrival Receipt Body Reply)
    (state : State Worker Row Ask Summary Arrival Receipt Reply) : Prop :=
  ∀ call ∈ state.consulted, ∃ row ∈ state.table,
    (service.entry row).card = (service.entry (service.subject call.query)).card

theorem consulted_of_path {clock : Int}
    (path : (machine service).Path Machine.Free (.initial clock) state) :
    Consulted service state := by
  induction path with
  | refl =>
      intro call membership
      cases membership
  | @tail before next earlier last ih =>
      obtain ⟨label, _, stepped⟩ := last
      obtain ⟨queue, simulates, _⟩ := evidenced_of_path earlier
      have kept : ∀ record, (∃ row ∈ before.table,
          (service.entry row).card = (service.entry record).card) →
          ∃ row ∈ next.table, (service.entry row).card = (service.entry record).card := by
        rintro record ⟨row, stored, same⟩
        obtain ⟨later, laterStored, sameCard, _⟩ :=
          simulates.rows_kept (Machine.path_single label trivial stepped) stored
        exact ⟨later, laterStored, sameCard.trans same⟩
      intro call membership
      rcases consulted_step stepped with same | ⟨worker, context, query, reply, _, asks, _, added⟩
      · rw [same] at membership
        exact kept _ (ih call membership)
      · rw [added, List.mem_cons] at membership
        rcases membership with rfl | before
        · exact kept _ (simulates.held_stored (simulates.asked asks).1)
        · exact kept _ (ih call before)

end Pactix.Worker
