import Pactix.Leasing.Rows
import Pactix.Worker.Ledger

/-!
# A pass row by row

When the batch is large enough for every row that may be claimed, a pass releases, takes
and marks each row for itself.
-/

namespace Pactix.Worker

open Foundation Queue

variable {Worker Row Status Ask Summary Arrival Receipt Body : Type} {Reply : Ask → Type}
variable [DecidableEq Status] {columns : Columns Row Status}
variable {service : Service Worker Row Ask Summary Arrival Receipt Body Reply}
variable {worker : Worker} {contexts : Nat → Context Row Ask Reply}
variable {answers : (query : Ask) → Reply query} {table : List Row}

namespace Tabular

variable (tabular : Tabular service columns) (worker : Worker) (time : Int) (table : List Row)

/-- The rows that a worker may claim at a time. -/
def eligible : List Row :=
  columns.eligible tabular.dialect (.utc time) (service.query worker) table

/-- A row of the table after reclaiming. -/
def released : Row → Row := columns.released tabular.dialect (.utc time)

def taken : Row → Row := columns.taken tabular.dialect (service.leaseDuration worker) (.utc time)

/-- The record of a claimed row. -/
def record : Row → Row :=
  columns.record tabular.dialect (service.leaseDuration worker) (.utc time)

/-- The row may be claimed after reclaiming. -/
def claims (row : Row) : Bool :=
  columns.claimable (service.query worker) (.utc time)
    (columns.reclaimExpired tabular.dialect (.utc time) table).1 (tabular.released time row)

variable {worker time}

theorem card_record (row : Row) :
    (service.entry (tabular.record worker time (tabular.released time row))).card =
      (service.entry row).card := by
  rw [← tabular.entry_eq, Tabular.record, tabular.view.entry_record, Entry.card_take,
    Tabular.released, tabular.view.card_released]

theorem id_released (row : Row) :
    columns.id (tabular.released time row) = service.store.id row := by
  rw [Tabular.released, tabular.view.id_released, tabular.id_eq]

theorem id_taken (row : Row) :
    columns.id (tabular.taken worker time (tabular.released time row)) = service.store.id row := by
  rw [Tabular.taken, tabular.view.id_taken, tabular.id_released]

theorem id_record (row : Row) :
    service.store.id (tabular.record worker time (tabular.released time row)) =
      service.store.id row := by
  rw [← tabular.id_eq, Tabular.record, tabular.view.id_record, tabular.id_released]

end Tabular

/-- What became of a row in a pass. -/
structure Dealt (tabular : Tabular service columns) (worker : Worker)
    (contexts : Nat → Context Row Ask Reply) (answers : (query : Ask) → Reply query)
    (table : List Row) (row final : Row) : Prop where
  left : tabular.claims worker (contexts 0).time table row = false →
    final = tabular.released (contexts 0).time row
  marked : tabular.claims worker (contexts 0).time table row = true →
    let released := tabular.released (contexts 0).time row
    let record := tabular.record worker (contexts 0).time released
    record ∈ service.batch worker contexts alone table ∧
      ∃ call ∈ (service.pass worker contexts alone table).performed,
        call.request.recordsFor = some (service.store.id row) ∧
          final = tabular.mark worker (contexts call.position).time record
            ((service.routine worker).concluded answers record)
            (tabular.taken worker (contexts 0).time released)

/-- Cards are kept. -/
theorem Dealt.card {tabular : Tabular service columns} {row final : Row}
    (dealt : Dealt tabular worker contexts answers table row final) :
    (service.entry final).card = (service.entry row).card := by
  have released : (service.entry (tabular.released (contexts 0).time row)).card =
      (service.entry row).card := by
    rw [← tabular.entry_eq, Tabular.released, tabular.view.card_released]
  cases claimed : tabular.claims worker (contexts 0).time table row with
  | false => rw [dealt.left claimed, released]
  | true =>
      obtain ⟨_, call, _, _, marked⟩ := dealt.marked claimed
      rw [marked, tabular.card_mark, ← released, ← tabular.entry_eq, Tabular.taken,
        tabular.view.entry_taken, Entry.card_take]

section Pass

variable (tabular : Tabular service columns)
variable (distinct : (table.map service.store.id).Nodup)
variable (unlocked : ∀ id, (contexts 1).choices.locked id = false)
variable (enough : (tabular.eligible worker (contexts 0).time table).length ≤
  service.batchSize worker)

include distinct in
/-- Different rows are released to rows with different ids. -/
theorem released_distinct (time : Int) :
    ((table.map (tabular.released time)).map columns.id).Nodup := by
  have ids : (table.map (tabular.released time)).map columns.id = table.map service.store.id := by
    rw [List.map_map]
    exact List.map_congr_left fun row _ => tabular.id_released row
  rw [ids]
  exact distinct

include distinct unlocked enough in
/-- The claim of a pass takes every row that may be claimed. -/
theorem claim_rowwise :
    let time := (contexts 0).time
    let swept := table.map (tabular.released time)
    let claims := columns.claimable (service.query worker) (.utc time) swept
    (service.claim worker contexts alone table).2 =
        updateWhere claims (tabular.taken worker time) swept ∧
      (service.batch worker contexts alone table).Perm
        ((swept.filter claims).map (tabular.record worker time)) := by
  intro time swept claims
  obtain ⟨taken, batch⟩ := columns.claimReady_complete tabular.dialect
    (service.leaseDuration worker)
    (.utc time) (released_distinct tabular distinct time) unlocked enough
  have claim : service.claim worker contexts alone table = _ :=
    tabular.reclaimAndClaim_eq worker (service.offered worker) (contexts 1).choices (.utc time)
      table
  constructor
  · rw [claim]
    exact taken
  · rw [Service.batch, claim]
    exact batch

include distinct unlocked enough in
/-- The batch has the records of the rows that may be claimed, and no others. -/
theorem record_mem_batch {row : Row} (membership : row ∈ table) :
    tabular.claims worker (contexts 0).time table row = true ↔
      service.store.id row ∈
        (service.batch worker contexts alone table).map service.store.id := by
  let time := (contexts 0).time
  have lent := (claim_rowwise tabular distinct unlocked enough).2
  have listed : tabular.released time row ∈ table.map (tabular.released time) :=
    List.mem_map_of_mem membership
  constructor
  · intro claimed
    have sameId : service.store.id (tabular.record worker time (tabular.released time row)) =
        service.store.id row := tabular.id_record row
    rw [← sameId]
    apply List.mem_map_of_mem
    exact lent.mem_iff.mpr (List.mem_map_of_mem (List.mem_filter.mpr ⟨listed, claimed⟩))
  · intro claimed
    obtain ⟨record, recordMem, sameId⟩ := List.mem_map.mp claimed
    obtain ⟨other, otherMem, rfl⟩ := List.mem_map.mp (lent.mem_iff.mp recordMem)
    obtain ⟨otherSwept, holds⟩ := List.mem_filter.mp otherMem
    have rowId : columns.id (tabular.released time row) = service.store.id row :=
      tabular.id_released row
    rw [← tabular.id_eq, Tabular.record, tabular.view.id_record, ← rowId] at sameId
    have same := List.inj_on_of_nodup_map (released_distinct tabular distinct time) otherSwept
      listed sameId
    rw [same] at holds
    exact holds

end Pass

variable (contexts) in
/-- A pass deals with every row for itself. -/
theorem pass_rowwise (tabular : Tabular service columns)
    (replies : ∀ position, (contexts position).reply = fun query => .ok (answers query))
    (distinct : (table.map service.store.id).Nodup)
    (unlocked : ∀ id, (contexts 1).choices.locked id = false)
    (enough : (tabular.eligible worker (contexts 0).time table).length ≤
      service.batchSize worker) :
    ∃ final : Row → Row, (service.pass worker contexts alone table).store = table.map final ∧
      ∀ row ∈ table, Dealt tabular worker contexts answers table row (final row) := by
  obtain ⟨_, _, marks, listed, store, calls⟩ :=
    pass_marks worker contexts tabular replies distinct
  let time := (contexts 0).time
  let updates := tabular.updates worker answers marks
  obtain ⟨taken, lent⟩ := claim_rowwise tabular distinct unlocked enough
  have markedIds : updates.map Prod.fst =
      (service.batch worker contexts alone table).map service.store.id := by
    rw [tabular.map_fst_updates, listed]
  let final := fun row => updated columns.id updates
    (if tabular.claims worker time table row then
        tabular.taken worker time (tabular.released time row)
      else tabular.released time row)
  refine ⟨final, ?_, fun row membership => ⟨fun unclaimed => ?_, fun claimed => ?_⟩⟩
  · rw [store, taken, updateWhere, List.map_map, List.map_map]
    rfl
  · -- Nothing is recorded for a row that is not claimed.
    have unlisted : columns.id (tabular.released time row) ∉ updates.map Prod.fst := by
      rw [markedIds, tabular.id_released,
        ← record_mem_batch tabular distinct unlocked enough membership, unclaimed]
      exact Bool.false_ne_true
    simp only [final, time, unclaimed, Bool.false_eq_true, if_false]
    exact updated_of_not_mem unlisted
  · have recordMem : tabular.record worker time (tabular.released time row) ∈
        service.batch worker contexts alone table :=
      lent.mem_iff.mpr (List.mem_map_of_mem
        (List.mem_filter.mpr ⟨List.mem_map_of_mem membership, claimed⟩))
    obtain ⟨mark, markMem, markRecord⟩ := List.mem_map.mp (listed.symm ▸ recordMem)
    obtain ⟨call, performed, records, atTime⟩ := calls mark markMem
    have markId : service.store.id mark.1 = service.store.id row := by
      rw [markRecord, tabular.id_record]
    have marksDistinct : (updates.map Prod.fst).Nodup := by
      rw [markedIds]
      exact (Lent.of_claim worker contexts distinct).rows_distinct
    have takenId : columns.id (tabular.taken worker time (tabular.released time row)) =
        service.store.id mark.1 := by
      rw [tabular.id_taken, markId]
    refine ⟨recordMem, call, performed, markId ▸ records, ?_⟩
    simp only [final, time, claimed, if_true]
    rw [updated_of_mem marksDistinct (List.mem_map_of_mem markMem) takenId, atTime, markRecord]

end Pactix.Worker
