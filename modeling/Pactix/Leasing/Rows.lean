import Pactix.Leasing.View

/-!
# Reclaiming and claiming row by row

When the batch is large enough for every row that may be claimed, what happens to a row
depends on the row itself and on the older rows of its ordering key.
-/

namespace Pactix

open Foundation Queue

variable {Row Status Body : Type} [DecidableEq Status]

namespace Columns

variable (columns : Columns Row Status) (dialect : Dialect) (leaseDuration : TimeDelta)
variable (now : DateTime)

/-- A row after reclaiming. -/
def released (row : Row) : Row :=
  let now := dialect.bound (dialect.column now)
  if columns.leaseExpired now row then columns.setLease columns.pending none now row else row

omit [DecidableEq Status] in
/-- A claimed row. -/
def taken (row : Row) : Row :=
  columns.setLease columns.processing (some (dialect.column (now.add leaseDuration)))
    (dialect.column now) row

omit [DecidableEq Status] in
/-- The record of a claimed row. -/
def record (row : Row) : Row :=
  match dialect with
  | .postgresql => columns.mapRecord (columns.taken .postgresql leaseDuration now row)
  | .mysql =>
      columns.setLease columns.processing (some (now.add leaseDuration)) now
        (columns.mapRecord row)

/-- The rows that may be claimed at a time, once the expired ones are reclaimed. -/
def eligible (query : ClaimQuery) (table : List Row) : List Row :=
  let table := (columns.reclaimExpired dialect now table).1
  table.filter (columns.claimable query now table)

section Complete

variable {query : ClaimQuery} {limit : Nat} {choices : Choices Row UUID} {table : List Row}

/-- With nothing locked and a limit that is high enough, the rows that may be claimed are
claimed. -/
theorem claimReady_complete (distinct : (table.map columns.id).Nodup)
    (unlocked : ∀ id, choices.locked id = false)
    (enough : (table.filter (columns.claimable query now table)).length ≤ limit) :
    let claimed := columns.claimReady dialect query limit leaseDuration choices now table
    claimed.1 = updateWhere (columns.claimable query now table)
        (columns.taken dialect leaseDuration now) table ∧
      claimed.2.Perm ((table.filter (columns.claimable query now table)).map
        (columns.record dialect leaseDuration now)) := by
  intro claimed
  have selected : (columns.selectClaimable query choices now limit table).Perm
      (table.filter (columns.claimable query now table)) :=
    selectForUpdate_all unlocked enough
  -- Looking a row up by its id finds the row itself.
  have condition : ∀ row ∈ table, decide (columns.id row ∈
      (columns.selectClaimable query choices now limit table).map columns.id) =
        columns.claimable query now table row := by
    intro row membership
    rw [Bool.eq_iff_iff, decide_eq_true_eq, List.mem_map]
    constructor
    · rintro ⟨other, chosen, sameId⟩
      obtain ⟨stored, holds, _⟩ := mem_of_mem_selectForUpdate chosen
      exact List.inj_on_of_nodup_map distinct stored membership sameId ▸ holds
    · intro holds
      exact ⟨row, selected.mem_iff.mpr (List.mem_filter.mpr ⟨membership, holds⟩), rfl⟩
  cases dialect with
  | postgresql =>
      constructor
      · exact updateWhere_congr condition
      · have filtered : table.filter (fun row => decide (columns.id row ∈
            (columns.selectClaimable query choices now limit table).map columns.id)) =
              table.filter (columns.claimable query now table) :=
          List.filter_congr condition
        have returned := ((choices.returning_perm ((table.filter fun row =>
          decide (columns.id row ∈ (columns.selectClaimable query choices now limit table).map
            columns.id)).map (columns.taken .postgresql leaseDuration now))).map columns.mapRecord)
        refine returned.trans ?_
        rw [filtered, List.map_map]
        exact .refl _
  | mysql =>
      simp only [claimed, claimReady, claimMysql, bound_naiveUtc, View.selectClaimable_naiveUtc]
      split
      next empty =>
        have none : table.filter (columns.claimable query now table) = [] :=
          List.nil_perm.mp (List.isEmpty_iff.mp empty ▸ selected)
        rw [updateWhere_of_none none, none]
        exact ⟨rfl, .refl _⟩
      next =>
        exact ⟨updateWhere_congr condition, selected.map _⟩

end Complete

end Columns

namespace View

variable {columns : Columns Row Status} (view : View columns Body)
variable (dialect : Dialect) (leaseDuration : TimeDelta) (now : DateTime)

theorem entry_released (row : Row) :
    view.entry (columns.released dialect now row) =
      if (view.entry row).expired now.instant then (view.entry row).release now.instant
      else view.entry row := by
  simp only [Columns.released, view.expired_entry, Dialect.instant_bound]
  split
  · rw [view.entry_release, Dialect.instant_bound]
  · rfl

theorem card_released (row : Row) :
    (view.entry (columns.released dialect now row)).card = (view.entry row).card := by
  rw [view.entry_released]
  split <;> rfl

omit [DecidableEq Status] in
theorem entry_taken (row : Row) :
    view.entry (columns.taken dialect leaseDuration now row) =
      (view.entry row).take (now.instant + leaseDuration) now.instant := by
  rw [Columns.taken, view.entry_take, Dialect.instant_column, Dialect.instant_column,
    DateTime.instant_add]

omit [DecidableEq Status] in
theorem entry_record (row : Row) :
    view.entry (columns.record dialect leaseDuration now row) =
      (view.entry row).take (now.instant + leaseDuration) now.instant := by
  cases dialect with
  | postgresql => rw [Columns.record, view.entry_mapRecord, view.entry_taken]
  | mysql => rw [Columns.record, view.entry_take, view.entry_mapRecord, DateTime.instant_add]

include view in
theorem id_released (row : Row) :
    columns.id (columns.released dialect now row) = columns.id row := by
  rw [← view.id_entry, view.card_released, view.id_entry]

omit [DecidableEq Status] in
include view in
theorem id_taken (row : Row) :
    columns.id (columns.taken dialect leaseDuration now row) = columns.id row := by
  rw [← view.id_entry, view.entry_taken, Entry.card_take, view.id_entry]

omit [DecidableEq Status] in
include view in
theorem id_record (row : Row) :
    columns.id (columns.record dialect leaseDuration now row) = columns.id row := by
  rw [← view.id_entry, view.entry_record, Entry.card_take, view.id_entry]

/-- The gate only looks at the rows of the candidate's ordering key. -/
theorem gate_congr {key : String × String} {left right : List Row} {candidate : Row}
    (keyed : (view.entry candidate).card.key = some key)
    (same : ∀ row, (view.entry row).card.key = some key → (row ∈ left ↔ row ∈ right))
    (query : ClaimQuery) :
    columns.gate left candidate query = columns.gate right candidate query := by
  have blocked : ∀ {older newer : List Row},
      (∀ row, (view.entry row).card.key = some key → row ∈ older → row ∈ newer) →
      columns.gate newer candidate query = true → columns.gate older candidate query = true := by
    intro older newer carried gate
    rw [view.gate_iff] at gate ⊢
    intro fifo grouped entry membership blocks
    obtain ⟨row, rowMem, rfl⟩ := List.mem_map.mp membership
    have member : view.entry row ∈ newer.map view.entry :=
      List.mem_map_of_mem (carried row (blocks.1.trans keyed) rowMem)
    exact gate fifo grouped _ member blocks
  rw [Bool.eq_iff_iff]
  exact ⟨blocked fun row keyed => (same row keyed).mpr,
    blocked fun row keyed => (same row keyed).mp⟩

/-- Whether a row may be claimed depends on the rows of its ordering key. -/
theorem claimable_congr {key : String × String} {left right : List Row} {candidate : Row}
    (keyed : (view.entry candidate).card.key = some key)
    (same : ∀ row, (view.entry row).card.key = some key → (row ∈ left ↔ row ∈ right))
    (query : ClaimQuery) :
    columns.claimable query now left candidate = columns.claimable query now right candidate := by
  simp only [Columns.claimable, view.gate_congr keyed same query]

end View

end Pactix
