import Pactix.Leasing.View

/-!
# Tables with the same entries

Two tables that a view reads as the same entries stay so when both reclaim or claim, on
whatever dialects, if nothing is locked and no two rows have arrived at the same time:
then the claim queries leave the database no choice.
-/

namespace Pactix

open Foundation Queue

variable {Row Status Body : Type}

namespace Columns

variable [DecidableEq Status] {columns : Columns Row Status} {Image : Type} {image : Row → Image}

/-- Reclaiming keeps what a lease does not touch. -/
theorem map_reclaimExpired_fixed
    (fixed : ∀ status lease now row, image (columns.setLease status lease now row) = image row)
    (dialect : Dialect) (now : DateTime) (table : List Row) :
    (columns.reclaimExpired dialect now table).1.map image = table.map image :=
  map_updateWhere_fixed (fixed _ _ _) table

/-- Claiming keeps what a lease does not touch. -/
theorem map_claimReady_fixed
    (fixed : ∀ status lease now row, image (columns.setLease status lease now row) = image row)
    (dialect : Dialect) (query : ClaimQuery) (limit : Nat) (leaseDuration : TimeDelta)
    (choices : Choices Row UUID) (now : DateTime) (table : List Row) :
    (columns.claimReady dialect query limit leaseDuration choices now table).1.map image =
      table.map image := by
  cases dialect with
  | postgresql => exact map_updateWhere_fixed (fixed _ _ _) table
  | mysql =>
      simp only [claimReady, claimMysql]
      split
      · rfl
      · exact map_updateWhere_fixed (fixed _ _ _) table

end Columns

namespace View

variable [DecidableEq Status] {columns : Columns Row Status} (view : View columns Body)
variable {left right : List Row}

omit [DecidableEq Status] in
/-- Rows with the same entries have the same ids. -/
theorem ids_eq (same : left.map view.entry = right.map view.entry) :
    left.map columns.id = right.map columns.id := by
  have ids := congrArg (List.map fun entry => entry.card.id) same
  simpa only [List.map_map, Function.comp_def, view.id_entry] using ids

omit [DecidableEq Status] in
theorem arrivals_eq (same : left.map view.entry = right.map view.entry) :
    left.map (fun row => (columns.arrivedAt row).instant) =
      right.map fun row => (columns.arrivedAt row).instant := by
  have stamps := congrArg (List.map fun entry => entry.card.stamp) same
  simpa only [List.map_map, Function.comp_def, view.stamp_entry] using stamps

/-! ## Reclaiming -/

/-- Reclaiming on two dialects returns the same entries, and counts the same. -/
theorem reclaimExpired_congr (same : left.map view.entry = right.map view.entry)
    (leftDialect rightDialect : Dialect) (now : DateTime) :
    (columns.reclaimExpired leftDialect now left).1.map view.entry =
        (columns.reclaimExpired rightDialect now right).1.map view.entry ∧
      (columns.reclaimExpired leftDialect now left).2 =
        (columns.reclaimExpired rightDialect now right).2 := by
  have counted : ∀ (dialect : Dialect) (table : List Row),
      (columns.reclaimExpired dialect now table).2 =
        ((table.map view.entry).filter (Entry.expired now.instant)).length := by
    intro dialect table
    rw [view.reclaimed_eq, List.filter_map, List.length_map]
    rfl
  constructor
  · rw [view.map_reclaimExpired, view.map_reclaimExpired, same]
  · rw [counted, counted, same]

/-! ## Claiming -/

/-- What a claim query selects is determined by the entries of the table. -/
theorem selectClaimable_congr (same : left.map view.entry = right.map view.entry)
    (untied : (left.map fun row => (columns.arrivedAt row).instant).Nodup)
    {leftChoices rightChoices : Choices Row UUID}
    (leftUnlocked : ∀ id, leftChoices.locked id = false)
    (rightUnlocked : ∀ id, rightChoices.locked id = false) (query : ClaimQuery)
    (now : DateTime) (limit : Nat) :
    (columns.selectClaimable query leftChoices now limit left).map view.entry =
      (columns.selectClaimable query rightChoices now limit right).map view.entry := by
  classical
  -- Both are the oldest ready entries.
  have oldest : ∀ (table : List Row) (choices : Choices Row UUID),
      (table.map fun row => (columns.arrivedAt row).instant).Nodup →
      (∀ id, choices.locked id = false) →
      (columns.selectClaimable query choices now limit table).map view.entry =
        ((((table.map view.entry).filter fun entry =>
            decide (entry.Ready (decide (query = .fifo)) now.instant
              (table.map view.entry))).insertionSort
          fun first second => first.card.stamp ≤ second.card.stamp).take limit) := by
    intro table choices untied unlocked
    unfold Columns.selectClaimable
    rw [selectForUpdate_determined unlocked untied, List.map_take]
    congr 1
    apply map_insertionSort_filter
    · intro row
      rw [Bool.eq_iff_iff, view.claimable_iff, decide_eq_true_eq]
    · intro row
      rw [view.stamp_entry]
  rw [oldest left leftChoices untied leftUnlocked,
    oldest right rightChoices (view.arrivals_eq same ▸ untied) rightUnlocked, same]

/-- Claiming on two dialects leaves the same entries and returns the same entries, in
some order. -/
theorem claimReady_congr (same : left.map view.entry = right.map view.entry)
    (distinct : (left.map columns.id).Nodup)
    (untied : (left.map fun row => (columns.arrivedAt row).instant).Nodup)
    (leftDialect rightDialect : Dialect) {leftChoices rightChoices : Choices Row UUID}
    (leftUnlocked : ∀ id, leftChoices.locked id = false)
    (rightUnlocked : ∀ id, rightChoices.locked id = false) (query : ClaimQuery) (limit : Nat)
    (leaseDuration : TimeDelta) (now : DateTime) :
    let leftClaimed :=
      columns.claimReady leftDialect query limit leaseDuration leftChoices now left
    let rightClaimed :=
      columns.claimReady rightDialect query limit leaseDuration rightChoices now right
    leftClaimed.1.map view.entry = rightClaimed.1.map view.entry ∧
      (leftClaimed.2.map view.entry).Perm (rightClaimed.2.map view.entry) := by
  intro leftClaimed rightClaimed
  obtain ⟨leftAfter, leftReturned⟩ := view.claimReady_eq leftDialect query limit leaseDuration
    leftChoices now distinct
  obtain ⟨rightAfter, rightReturned⟩ := view.claimReady_eq rightDialect query limit
    leaseDuration rightChoices now (view.ids_eq same ▸ distinct)
  have selected := view.selectClaimable_congr same untied leftUnlocked rightUnlocked query now
    limit
  constructor
  · rw [leftAfter, rightAfter, same, view.ids_eq selected]
  · have taken := congrArg (List.map
      (Entry.take (now.instant + leaseDuration) now.instant)) selected
    rw [List.map_map, List.map_map] at taken
    exact leftReturned.trans ((List.Perm.of_eq taken).trans rightReturned.symm)

/-- Every record that a claim returns is stored as it is returned. -/
theorem mem_of_claimed (dialect : Dialect) (query : ClaimQuery) (limit : Nat)
    (leaseDuration : TimeDelta) (choices : Choices Row UUID) (now : DateTime)
    {table : List Row} (distinct : (table.map columns.id).Nodup) {record : Row}
    (returned : record ∈
      (columns.claimReady dialect query limit leaseDuration choices now table).2) :
    view.entry record ∈
      (columns.claimReady dialect query limit leaseDuration choices now table).1.map
        view.entry := by
  obtain ⟨after, listed⟩ := view.claimReady_eq dialect query limit leaseDuration choices now
    distinct
  rw [after]
  obtain ⟨row, selected, taken⟩ := List.mem_map.mp
    (listed.mem_iff.mp (List.mem_map_of_mem returned))
  rw [← taken]
  apply mem_updateWhere_of
  · exact List.mem_map_of_mem (mem_of_mem_selectForUpdate selected).1
  · rw [view.id_entry, decide_eq_true_eq]
    exact List.mem_map_of_mem selected

end View

end Pactix
