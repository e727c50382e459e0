import Pactix.Leasing.Columns
import Pactix.Queue.Core

/-!
# Message tables as leased queues

A view reads the rows of a message table as entries of a leased queue.  Under a
view, reclaiming is a sweep and claiming is a lending; this is proved once for
both tables, all claim queries and both dialects.
-/

namespace Pactix

open Foundation Queue

variable {Row Status Body : Type}

/-- A reading of rows as queue entries that agrees with the columns. -/
structure View (columns : Columns Row Status) (Body : Type) where
  entry : Row → Entry UUID (String × String) Int Body
  id_entry : ∀ row, (entry row).card.id = columns.id row
  key_entry : ∀ row, (entry row).card.key =
    (columns.orderingKey row).map fun key => (columns.eventType row, key)
  stamp_entry : ∀ row, (entry row).card.stamp = (columns.arrivedAt row).instant
  due_entry : ∀ row, (entry row).due = (columns.availableAt row).instant
  lease_entry : ∀ row, (entry row).lease = (columns.leaseUntil row).map DateTime.instant
  pending_entry : ∀ row, (entry row).phase = .pending ↔ columns.status row = columns.pending
  processing_entry : ∀ row,
    (entry row).phase = .processing ↔ columns.status row = columns.processing
  entry_release : ∀ now row,
    entry (columns.setLease columns.pending none now row) = (entry row).release now.instant
  entry_take : ∀ lease now row,
    entry (columns.setLease columns.processing (some lease) now row) =
      (entry row).take lease.instant now.instant
  entry_mapRecord : ∀ row, entry (columns.mapRecord row) = entry row

namespace View

variable [DecidableEq Status] {columns : Columns Row Status} (view : View columns Body)

/-! ## Reclaiming -/

theorem expired_entry (now : DateTime) (row : Row) :
    columns.leaseExpired now row = (view.entry row).expired now.instant := by
  simp only [Columns.leaseExpired, Entry.expired, view.lease_entry, Option.any_map]
  congr 1
  exact decide_eq_decide.mpr (view.processing_entry row).symm

theorem leaseExpired_bound (dialect : Dialect) (now : DateTime) :
    columns.leaseExpired (dialect.bound (dialect.column now)) = columns.leaseExpired now := by
  funext row
  simp [Columns.leaseExpired]

/-- Reclaiming is a sweep. -/
theorem map_reclaimExpired (dialect : Dialect) (now : DateTime) (table : List Row) :
    (columns.reclaimExpired dialect now table).1.map view.entry =
      sweep now.instant (table.map view.entry) := by
  unfold Columns.reclaimExpired sweep
  apply map_updateWhere
  · intro row
    rw [view.expired_entry, Dialect.instant_bound]
  · intro row
    rw [view.entry_release, Dialect.instant_bound]

/-- The expired rows are counted. -/
theorem reclaimed_eq (dialect : Dialect) (now : DateTime) (table : List Row) :
    (columns.reclaimExpired dialect now table).2 =
      (table.filter fun row => (view.entry row).expired now.instant).length := by
  simp only [Columns.reclaimExpired, leaseExpired_bound]
  congr 2
  funext row
  exact view.expired_entry now row

include view in
/-- Reclaiming keeps the ids. -/
theorem ids_reclaimExpired (dialect : Dialect) (now : DateTime) (table : List Row) :
    (columns.reclaimExpired dialect now table).1.map columns.id = table.map columns.id := by
  unfold Columns.reclaimExpired
  apply map_updateWhere_fixed
  intro row
  rw [← view.id_entry, view.entry_release, Entry.card_release, view.id_entry]

/-! ## Claiming -/

omit [DecidableEq Status] in
theorem open_entry (row : Row) :
    (view.entry row).phase.terminal = false ↔
      columns.status row = columns.pending ∨ columns.status row = columns.processing := by
  rw [← view.pending_entry, ← view.processing_entry]
  cases (view.entry row).phase <;> simp [Phase.terminal]

/-- The subquery of the gate finds the entries that block the candidate. -/
theorem blocks_entry {candidate : Row}
    (grouped : (columns.orderingKey candidate).isSome = true) (older : Row) :
    columns.olderUnfinished candidate older = true ↔
      (view.entry older).Blocks (view.entry candidate) := by
  obtain ⟨key, keyed⟩ := Option.isSome_iff_exists.mp grouped
  simp only [Columns.olderUnfinished, Entry.Blocks, view.key_entry, view.stamp_entry,
    view.open_entry, Bool.and_eq_true, Bool.or_eq_true, decide_eq_true_eq, keyed,
    Option.map_some]
  constructor
  · rintro ⟨⟨⟨sameType, _, sameKey⟩, before⟩, unfinished⟩
    exact ⟨by simp [sameKey, sameType], before, unfinished⟩
  · rintro ⟨same, before, unfinished⟩
    obtain ⟨other, otherKeyed, pair⟩ := Option.map_eq_some_iff.mp same
    simp only [Prod.mk.injEq] at pair
    exact ⟨⟨⟨pair.1, by simp [otherKeyed], by rw [otherKeyed, pair.2]⟩, before⟩, unfinished⟩

/-- The gate is the one of the queue. -/
theorem gate_iff (query : ClaimQuery) (table : List Row) (candidate : Row) :
    columns.gate table candidate query = true ↔
      (decide (query = .fifo) = true → (view.entry candidate).card.key ≠ none →
        ∀ older ∈ table.map view.entry, ¬older.Blocks (view.entry candidate)) := by
  cases query with
  | unordered => simp [Columns.gate]
  | fifo =>
      cases keyed : columns.orderingKey candidate with
      | none => simp [Columns.gate, view.key_entry, keyed]
      | some key =>
          have grouped : (columns.orderingKey candidate).isSome = true := by simp [keyed]
          simp [Columns.gate, view.key_entry, keyed, ← view.blocks_entry grouped]

/-- The `WHERE` clause selects exactly the ready entries. -/
theorem claimable_iff (query : ClaimQuery) (now : DateTime) (table : List Row)
    (candidate : Row) :
    columns.claimable query now table candidate = true ↔
      (view.entry candidate).Ready (decide (query = .fifo)) now.instant
        (table.map view.entry) := by
  unfold Columns.claimable
  rw [Bool.and_eq_true, view.gate_iff, Bool.and_eq_true, decide_eq_true_eq, decide_eq_true_eq,
    ← view.pending_entry, ← view.due_entry]
  exact ⟨fun ⟨⟨pending, due⟩, gate⟩ => ⟨pending, due, gate⟩,
    fun ready => ⟨⟨ready.pending, ready.due⟩, ready.gate⟩⟩

theorem claimable_naiveUtc (query : ClaimQuery) (now : DateTime) :
    columns.claimable query (naiveUtc now) = columns.claimable query now := by
  funext table candidate
  simp only [Columns.claimable, instant_naiveUtc]

theorem selectClaimable_naiveUtc (query : ClaimQuery) (choices : Choices Row UUID)
    (now : DateTime) (limit : Nat) (table : List Row) :
    columns.selectClaimable query choices (naiveUtc now) limit table =
      columns.selectClaimable query choices now limit table := by
  simp only [Columns.selectClaimable, claimable_naiveUtc]

/-- On either dialect, claiming lends the selected entries. -/
theorem map_claimReady (dialect : Dialect) (query : ClaimQuery) (limit : Nat)
    (leaseDuration : TimeDelta) (choices : Choices Row UUID) (now : DateTime)
    (table : List Row) :
    (columns.claimReady dialect query limit leaseDuration choices now table).1.map view.entry =
      lend (fun id => decide
          (id ∈ (columns.selectClaimable query choices now limit table).map columns.id))
        (now.instant + leaseDuration) now.instant (table.map view.entry) := by
  cases dialect with
  | postgresql =>
      apply map_updateWhere
      · intro row
        simp only [view.id_entry]
      · intro row
        rw [view.entry_take, DateTime.instant_add]
  | mysql =>
      simp only [Columns.claimReady, Columns.claimMysql, bound_naiveUtc, selectClaimable_naiveUtc]
      split
      next empty =>
        rw [List.isEmpty_iff.mp empty]
        simp [lend, updateWhere]
      next =>
        apply map_updateWhere
        · intro row
          simp only [view.id_entry]
        · intro row
          rw [view.entry_take, instant_naiveUtc, instant_naiveUtc, DateTime.instant_add]

/-- On either dialect, claiming updates the selected rows and returns them. -/
theorem claimReady_eq (dialect : Dialect) (query : ClaimQuery) (limit : Nat)
    (leaseDuration : TimeDelta) (choices : Choices Row UUID) (now : DateTime)
    {table : List Row} (distinct : (table.map columns.id).Nodup) :
    let selected := columns.selectClaimable query choices now limit table
    let claimed := columns.claimReady dialect query limit leaseDuration choices now table
    let lease := now.instant + leaseDuration
    claimed.1.map view.entry =
        lend (fun id => decide (id ∈ selected.map columns.id)) lease now.instant
          (table.map view.entry) ∧
      (claimed.2.map view.entry).Perm
        (selected.map fun row => (view.entry row).take lease now.instant) := by
  intro selected claimed lease
  refine ⟨view.map_claimReady dialect query limit leaseDuration choices now table, ?_⟩
  cases dialect with
  | postgresql =>
      have returned : claimed.2.map view.entry =
          (choices.returning ((table.filter fun row =>
            decide (columns.id row ∈ selected.map columns.id)).map
              (columns.setLease columns.processing (some (now.add leaseDuration)) now))).map
            view.entry := by
        simp only [claimed, Columns.claimReady, Columns.claim, updateReturning,
          List.map_map, Function.comp_def, view.entry_mapRecord, selected]
      rw [returned]
      refine ((choices.returning_perm _).map view.entry).trans ?_
      simp only [List.map_map, Function.comp_def, view.entry_take, DateTime.instant_add]
      exact (filter_selected_perm distinct).map _
  | mysql =>
      simp only [claimed, Columns.claimReady, Columns.claimMysql, bound_naiveUtc,
        selectClaimable_naiveUtc]
      split
      next empty =>
        have none : selected = [] := List.isEmpty_iff.mp empty
        simp [none]
      next =>
        simp [selected, List.map_map, Function.comp_def, view.entry_take, view.entry_mapRecord,
          lease]

/-- Whatever the table, every claimed record carries the lease of the claim. -/
theorem lease_claimReady (dialect : Dialect) (query : ClaimQuery) (limit : Nat)
    (leaseDuration : TimeDelta) (choices : Choices Row UUID) (now : DateTime)
    (table : List Row) {record : Row} (claimed : record ∈
      (columns.claimReady dialect query limit leaseDuration choices now table).2) :
    (view.entry record).lease = some (now.instant + leaseDuration) := by
  cases dialect with
  | postgresql =>
      obtain ⟨updated, returned, rfl⟩ := List.mem_map.mp claimed
      obtain ⟨row, _, rfl⟩ := List.mem_map.mp ((choices.returning_perm _).mem_iff.mp returned)
      rw [view.entry_mapRecord, view.entry_take, DateTime.instant_add]
      rfl
  | mysql =>
      simp only [Columns.claimReady, Columns.claimMysql] at claimed
      split at claimed
      next => simp at claimed
      next =>
        obtain ⟨row, _, rfl⟩ := List.mem_map.mp claimed
        rw [view.entry_take, DateTime.instant_add]
        rfl

/-- Reclaiming and claiming in one transaction is a lending. -/
theorem lends (dialect : Dialect) (query : ClaimQuery) (limit : Nat)
    (leaseDuration : TimeDelta) (choices : Choices Row UUID) (now : DateTime)
    {table : List Row} (distinct : (table.map columns.id).Nodup) :
    let swept := (columns.reclaimExpired dialect now table).1
    let claimed := columns.claimReady dialect query limit leaseDuration choices now swept
    let lease := now.instant + leaseDuration
    ∃ chosen, Lends (decide (query = .fifo)) now.instant lease (table.map view.entry) chosen
        (claimed.2.map view.entry) ∧
      claimed.1.map view.entry =
        lend chosen lease now.instant (sweep now.instant (table.map view.entry)) := by
  intro swept claimed lease
  have sweptDistinct : (swept.map columns.id).Nodup := by
    rw [view.ids_reclaimExpired]
    exact distinct
  have sweptEntries : sweep now.instant (table.map view.entry) = swept.map view.entry :=
    (view.map_reclaimExpired dialect now table).symm
  obtain ⟨updated, returned⟩ := view.claimReady_eq dialect query limit leaseDuration choices
    now sweptDistinct
  refine ⟨_, ⟨?_, ?_⟩, by rw [sweptEntries]; exact updated⟩
  · intro entry membership picked
    rw [sweptEntries] at membership ⊢
    obtain ⟨row, rowMem, rfl⟩ := List.mem_map.mp membership
    rw [view.id_entry, decide_eq_true_eq] at picked
    obtain ⟨chosenRow, chosenMem, sameId⟩ := List.mem_map.mp picked
    obtain ⟨chosenStored, holds, _⟩ := mem_of_mem_selectForUpdate chosenMem
    have same := List.inj_on_of_nodup_map sweptDistinct chosenStored rowMem sameId
    exact (view.claimable_iff query now swept row).mp (same ▸ holds)
  · refine returned.trans ?_
    rw [sweptEntries, List.filter_map, List.map_map]
    simp only [Function.comp_def, view.id_entry]
    exact ((filter_selected_perm sweptDistinct).map _).symm

/-- With a positive batch size and nothing locked, some ready entry is enough for a
claim to return a record. -/
theorem claimReady_ne_nil (dialect : Dialect) (query : ClaimQuery) {limit : Nat}
    (leaseDuration : TimeDelta) {choices : Choices Row UUID} (now : DateTime)
    {table : List Row} (distinct : (table.map columns.id).Nodup) (positive : 0 < limit)
    (unlocked : ∀ id, choices.locked id = false)
    {entry : Entry UUID (String × String) Int Body} (stored : entry ∈ table.map view.entry)
    (ready : entry.Ready (decide (query = .fifo)) now.instant (table.map view.entry)) :
    (columns.claimReady dialect query limit leaseDuration choices now table).2 ≠ [] := by
  obtain ⟨row, rowMem, rfl⟩ := List.mem_map.mp stored
  have holds := (view.claimable_iff query now table row).mpr ready
  have selected : columns.selectClaimable query choices now limit table ≠ [] :=
    selectForUpdate_ne_nil positive rowMem holds (unlocked _)
  have returned := (view.claimReady_eq dialect query limit leaseDuration choices now
    distinct).2.length_eq
  simp only [List.length_map] at returned
  intro empty
  rw [empty, List.length_nil, eq_comm, List.length_eq_zero_iff] at returned
  exact selected returned

/-- Reclaiming and claiming returns a record when some entry is ready in between. -/
theorem claims (dialect : Dialect) (query : ClaimQuery) {limit : Nat}
    (leaseDuration : TimeDelta) {choices : Choices Row UUID} (now : DateTime)
    {table : List Row} (distinct : (table.map columns.id).Nodup) (positive : 0 < limit)
    (unlocked : ∀ id, choices.locked id = false)
    (ready : ∃ ready ∈ sweep now.instant (table.map view.entry),
      ready.Ready (decide (query = .fifo)) now.instant
        (sweep now.instant (table.map view.entry))) :
    (columns.claimReady dialect query limit leaseDuration choices now
      (columns.reclaimExpired dialect now table).1).2 ≠ [] := by
  obtain ⟨entry, stored, ready⟩ := ready
  rw [← view.map_reclaimExpired dialect now table] at stored ready
  refine view.claimReady_ne_nil dialect query leaseDuration now ?_ positive unlocked stored ready
  rw [view.ids_reclaimExpired]
  exact distinct

/-! ## Frames -/

/-- A row that is not expired is left alone by reclaiming. -/
theorem mem_reclaimExpired (dialect : Dialect) {now : DateTime} {table : List Row}
    {row : Row} (membership : row ∈ table)
    (notExpired : (view.entry row).expired now.instant = false) :
    row ∈ (columns.reclaimExpired dialect now table).1 := by
  apply mem_updateWhere_of_not membership
  rw [leaseExpired_bound, view.expired_entry]
  exact notExpired

/-- A row that is not pending is left alone by claiming. -/
theorem mem_claimReady (dialect : Dialect) (query : ClaimQuery) (limit : Nat)
    (leaseDuration : TimeDelta) (choices : Choices Row UUID) (now : DateTime)
    {table : List Row} (distinct : (table.map columns.id).Nodup)
    {row : Row} (membership : row ∈ table) (notPending : (view.entry row).phase ≠ .pending) :
    row ∈ (columns.claimReady dialect query limit leaseDuration choices now table).1 := by
  -- The selected ids belong to pending rows, on either dialect.
  have skipped : ∀ time, decide (columns.id row ∈
      (columns.selectClaimable query choices time limit table).map columns.id) = false := by
    intro time
    rw [decide_eq_false_iff_not, List.mem_map]
    rintro ⟨chosen, chosenMem, sameId⟩
    obtain ⟨chosenStored, holds, _⟩ := mem_of_mem_selectForUpdate chosenMem
    have same := List.inj_on_of_nodup_map distinct chosenStored membership sameId
    exact notPending (same ▸ ((view.claimable_iff query time table chosen).mp holds).pending)
  cases dialect with
  | postgresql => exact mem_updateWhere_of_not membership (skipped now)
  | mysql =>
      simp only [Columns.claimReady, Columns.claimMysql]
      split
      · exact membership
      · exact mem_updateWhere_of_not membership (skipped (naiveUtc now))

include view in
/-- The claimed records have the ids of the selected rows. -/
theorem mem_ids_claimReady (dialect : Dialect) (query : ClaimQuery) (limit : Nat)
    (leaseDuration : TimeDelta) (choices : Choices Row UUID) (now : DateTime)
    {table : List Row} (distinct : (table.map columns.id).Nodup) {id : UUID} :
    id ∈ (columns.claimReady dialect query limit leaseDuration choices now table).2.map
        columns.id ↔
      id ∈ (columns.selectClaimable query choices now limit table).map columns.id := by
  have returned := ((view.claimReady_eq dialect query limit leaseDuration choices now
    distinct).2.map fun entry => entry.card.id).mem_iff (a := id)
  simpa only [List.map_map, Function.comp_def, view.id_entry, Entry.card_take] using returned

include view in
/-- A row that is not claimed is left alone by claiming. -/
theorem mem_claimReady_of_not (dialect : Dialect) (query : ClaimQuery) (limit : Nat)
    (leaseDuration : TimeDelta) (choices : Choices Row UUID) (now : DateTime)
    {table : List Row} (distinct : (table.map columns.id).Nodup) {row : Row}
    (membership : row ∈ table) (unclaimed : columns.id row ∉
      (columns.claimReady dialect query limit leaseDuration choices now table).2.map columns.id) :
    row ∈ (columns.claimReady dialect query limit leaseDuration choices now table).1 := by
  rw [view.mem_ids_claimReady dialect query limit leaseDuration choices now distinct]
    at unclaimed
  cases dialect with
  | postgresql => exact mem_updateWhere_of_not membership (decide_eq_false unclaimed)
  | mysql =>
      simp only [Columns.claimReady, Columns.claimMysql]
      split
      · exact membership
      · apply mem_updateWhere_of_not membership
        rw [bound_naiveUtc, selectClaimable_naiveUtc]
        exact decide_eq_false unclaimed

/-- A ready entry that is free is passed over only for a full batch of records that do not
come after it. -/
theorem oldest (dialect : Dialect) (query : ClaimQuery) (limit : Nat)
    (leaseDuration : TimeDelta) (choices : Choices Row UUID) (now : DateTime)
    {table : List Row} (distinct : (table.map columns.id).Nodup)
    {entry : Entry UUID (String × String) Int Body}
    (stored : entry ∈ sweep now.instant (table.map view.entry))
    (ready : entry.Ready (decide (query = .fifo)) now.instant
      (sweep now.instant (table.map view.entry)))
    (free : choices.locked entry.card.id = false) :
    let claimed := (columns.claimReady dialect query limit leaseDuration choices now
      (columns.reclaimExpired dialect now table).1).2
    entry.card.id ∉ claimed.map columns.id → claimed.length = limit ∧
      ∀ record ∈ claimed, (view.entry record).card.stamp ≤ entry.card.stamp := by
  intro claimed unclaimed
  have sweptDistinct : ((columns.reclaimExpired dialect now table).1.map columns.id).Nodup := by
    rw [view.ids_reclaimExpired]
    exact distinct
  have returned := (view.claimReady_eq dialect query limit leaseDuration choices now
    sweptDistinct).2
  rw [← view.map_reclaimExpired dialect now table] at stored ready
  obtain ⟨row, rowMem, rfl⟩ := List.mem_map.mp stored
  rw [view.id_entry, view.mem_ids_claimReady _ _ _ _ _ _ sweptDistinct] at unclaimed
  obtain ⟨full, before⟩ := selectForUpdate_oldest rowMem
    ((view.claimable_iff query now _ row).mpr ready) (view.id_entry row ▸ free)
    (fun selected => unclaimed (List.mem_map_of_mem selected))
  constructor
  · have length := returned.length_eq
    rw [List.length_map, List.length_map] at length
    exact length.trans full
  · intro record membership
    obtain ⟨chosen, selected, taken⟩ := List.mem_map.mp
      (returned.mem_iff.mp (List.mem_map_of_mem membership))
    rw [← taken, Entry.card_take, view.stamp_entry, view.stamp_entry]
    exact before chosen selected

/-- Terminal rows are left alone by reclaiming and claiming. -/
theorem claim_keeps (dialect : Dialect) (query : ClaimQuery) (limit : Nat)
    (leaseDuration : TimeDelta) (choices : Choices Row UUID) (now : DateTime)
    {table : List Row} (distinct : (table.map columns.id).Nodup) {row : Row}
    (membership : row ∈ table) (terminal : (view.entry row).phase.terminal = true) :
    row ∈ (columns.claimReady dialect query limit leaseDuration choices now
      (columns.reclaimExpired dialect now table).1).1 := by
  have notPending : (view.entry row).phase ≠ .pending := by
    intro pending
    simp [pending, Phase.terminal] at terminal
  have notExpired : (view.entry row).expired now.instant = false := by
    rw [← Bool.not_eq_true, Entry.expired_eq_true]
    rintro ⟨processing, _⟩
    simp [processing, Phase.terminal] at terminal
  apply view.mem_claimReady _ _ _ _ _ _ _ _ notPending
  · rw [view.ids_reclaimExpired]
    exact distinct
  · exact view.mem_reclaimExpired dialect membership notExpired

omit [DecidableEq Status] in
/-- Recording an outcome leaves the other rows alone. -/
theorem mem_updateById {id : UUID} (assign : Row → Row) {table : List Row} {row : Row}
    (membership : row ∈ table) (other : columns.id row ≠ id) :
    row ∈ columns.updateById id assign table :=
  mem_updateWhere_of_not membership (by simp [other])

omit [DecidableEq Status] in
/-- Recording an outcome updates the entry with the id. -/
theorem map_updateById {id : UUID} {assign : Row → Row}
    {settle : Entry UUID (String × String) Int Body → Entry UUID (String × String) Int Body}
    (assigned : ∀ row, view.entry (assign row) = settle (view.entry row)) (table : List Row) :
    (columns.updateById id assign table).map view.entry =
      updateWhere (fun entry => decide (entry.card.id = id)) settle
        (table.map view.entry) := by
  apply map_updateWhere
  · intro row
    simp only [view.id_entry]
  · exact assigned

end View

end Pactix
