import Mathlib.Algebra.Ring.Int.Defs
import Mathlib.Data.List.Sort
import Mathlib.Data.List.Nodup
import Mathlib.Data.List.Perm.Basic

/-!
# Relational tables as lists of rows

The three statement forms that a leasing queue needs: a conditional update, an
update that returns the rows it changed, and a locking select that orders,
limits and skips locked rows.  What a database leaves open (scan order, the rows
that other transactions have locked, the order of returned rows) is a separate
argument, so every statement about a table quantifies over it.
-/

namespace Pactix.Foundation

variable {Row Image Id Time : Type}

/-! ## Conditional update -/

/-- `UPDATE ... SET assign WHERE condition`. -/
def updateWhere (condition : Row → Bool) (assign : Row → Row)
    (rows : List Row) : List Row :=
  rows.map fun row => if condition row then assign row else row

@[simp] theorem updateWhere_nil (condition : Row → Bool) (assign : Row → Row) :
    updateWhere condition assign [] = [] := rfl

@[simp] theorem updateWhere_cons (condition : Row → Bool) (assign : Row → Row)
    (row : Row) (rows : List Row) :
    updateWhere condition assign (row :: rows) =
      (if condition row then assign row else row) ::
        updateWhere condition assign rows := rfl

theorem mem_updateWhere {condition : Row → Bool} {assign : Row → Row}
    {rows : List Row} {after : Row} :
    after ∈ updateWhere condition assign rows ↔
      ∃ before ∈ rows, (condition before = true ∧ after = assign before) ∨
        (condition before = false ∧ after = before) := by
  simp only [updateWhere, List.mem_map]
  constructor
  · rintro ⟨before, membership, rfl⟩
    refine ⟨before, membership, ?_⟩
    cases holds : condition before <;> simp
  · rintro ⟨before, membership, ⟨holds, rfl⟩ | ⟨fails, rfl⟩⟩
    · exact ⟨before, membership, by simp [holds]⟩
    · exact ⟨after, membership, by simp [fails]⟩

/-- A row outside the condition survives an update. -/
theorem mem_updateWhere_of_not {condition : Row → Bool} {assign : Row → Row}
    {rows : List Row} {row : Row} (membership : row ∈ rows)
    (fails : condition row = false) : row ∈ updateWhere condition assign rows :=
  mem_updateWhere.mpr ⟨row, membership, .inr ⟨fails, rfl⟩⟩

/-- A row inside the condition appears with its new value. -/
theorem mem_updateWhere_of {condition : Row → Bool} {assign : Row → Row}
    {rows : List Row} {row : Row} (membership : row ∈ rows)
    (holds : condition row = true) :
    assign row ∈ updateWhere condition assign rows :=
  mem_updateWhere.mpr ⟨row, membership, .inl ⟨holds, rfl⟩⟩

/-- What the assignment keeps holds of every row after an update. -/
theorem forall_updateWhere {Holds : Row → Prop} {condition : Row → Bool} {assign : Row → Row}
    {rows : List Row} (kept : ∀ row, Holds row → Holds (assign row))
    (holds : ∀ row ∈ rows, Holds row) : ∀ row ∈ updateWhere condition assign rows, Holds row := by
  intro row membership
  rcases mem_updateWhere.mp membership with ⟨before, stored, ⟨_, rfl⟩ | ⟨_, rfl⟩⟩
  · exact kept before (holds before stored)
  · exact holds _ stored

/-- An update keeps every row in its place. -/
theorem getElem?_updateWhere (condition : Row → Bool) (assign : Row → Row) (rows : List Row)
    (index : Nat) :
    (updateWhere condition assign rows)[index]? =
      rows[index]?.map fun row => if condition row then assign row else row :=
  List.getElem?_map

/-- An image that sees the same condition and the same assignment commutes with
the update. -/
theorem map_updateWhere {image : Row → Image} {condition : Row → Bool}
    {assign : Row → Row} {imageCondition : Image → Bool}
    {imageAssign : Image → Image} (rows : List Row)
    (sameCondition : ∀ row, condition row = imageCondition (image row))
    (sameAssign : ∀ row, image (assign row) = imageAssign (image row)) :
    (updateWhere condition assign rows).map image =
      updateWhere imageCondition imageAssign (rows.map image) := by
  simp only [updateWhere, List.map_map]
  apply List.map_congr_left
  intro row _
  simp only [Function.comp_apply, sameCondition]
  split
  · exact sameAssign row
  · rfl

/-- A column that the assignment does not touch keeps its values. -/
theorem map_updateWhere_fixed {image : Row → Image} {condition : Row → Bool}
    {assign : Row → Row} (fixed : ∀ row, image (assign row) = image row)
    (rows : List Row) :
    (updateWhere condition assign rows).map image = rows.map image := by
  simp only [updateWhere, List.map_map]
  apply List.map_congr_left
  intro row _
  simp only [Function.comp_apply]
  split
  · exact fixed row
  · rfl

/-- Only the rows of the table matter for what a condition selects. -/
theorem updateWhere_congr {condition other : Row → Bool} {assign : Row → Row} {rows : List Row}
    (same : ∀ row ∈ rows, condition row = other row) :
    updateWhere condition assign rows = updateWhere other assign rows := by
  unfold updateWhere
  apply List.map_congr_left
  intro row membership
  rw [same row membership]

/-- An update whose condition holds nowhere changes nothing. -/
theorem updateWhere_of_none {condition : Row → Bool} {assign : Row → Row} {rows : List Row}
    (none : rows.filter condition = []) : updateWhere condition assign rows = rows := by
  rw [List.filter_eq_nil_iff] at none
  induction rows with
  | nil => rfl
  | cons row rows ih =>
      rw [updateWhere_cons, if_neg (none row List.mem_cons_self),
        ih fun other membership => none other (List.mem_cons_of_mem _ membership)]

/-- An update that does not touch what is looked at commutes with looking. -/
theorem filter_updateWhere {look condition : Row → Bool} {assign : Row → Row}
    (kept : ∀ row, look (assign row) = look row) (rows : List Row) :
    (updateWhere condition assign rows).filter look =
      updateWhere condition assign (rows.filter look) := by
  induction rows with
  | nil => rfl
  | cons row rows ih =>
      have same : look (if condition row then assign row else row) = look row := by
        split
        · exact kept row
        · rfl
      simp only [updateWhere_cons, List.filter_cons, same]
      cases look row with
      | true => simp only [if_true, updateWhere_cons, ih]
      | false => simpa using ih

/-- An update of rows that are not looked at is not seen. -/
theorem filter_updateWhere_of_not {look condition : Row → Bool}
    {assign : Row → Row} (kept : ∀ row, look (assign row) = look row)
    (unseen : ∀ row, condition row = true → look row = false) (rows : List Row) :
    (updateWhere condition assign rows).filter look = rows.filter look := by
  rw [filter_updateWhere kept]
  apply updateWhere_of_none
  rw [List.filter_eq_nil_iff]
  intro row membership holds
  have seen := (List.mem_filter.mp membership).2
  rw [unseen row holds] at seen
  exact Bool.false_ne_true seen

/-- What an update does to a sum over all rows. -/
theorem sum_updateWhere {measure change : Row → Int} {condition : Row → Bool}
    {assign : Row → Row} {rows : List Row}
    (changed : ∀ row ∈ rows, condition row = true →
      measure (assign row) = measure row + change row) :
    ((updateWhere condition assign rows).map measure).sum =
      (rows.map measure).sum + ((rows.filter condition).map change).sum := by
  induction rows with
  | nil => rfl
  | cons row rows ih =>
      have rest := ih fun other listed => changed other (List.mem_cons_of_mem _ listed)
      have first := changed row List.mem_cons_self
      rw [updateWhere_cons, List.filter_cons]
      split
      next holds =>
        simp only [List.map_cons, List.sum_cons, first holds, rest]
        omega
      next =>
        simp only [List.map_cons, List.sum_cons, rest]
        omega

/-! ## Updates by key -/

section Keyed

variable [DecidableEq Id]

/-- One update for each key of the list, one after the other. -/
def updateEach (key : Row → Id) (updates : List (Id × (Row → Row))) (rows : List Row) :
    List Row :=
  updates.foldl (fun rows update => updateWhere (fun row => decide (key row = update.1)) update.2
    rows) rows

/-- The update for the key of a row, if there is one. -/
def updated (key : Row → Id) (updates : List (Id × (Row → Row))) (row : Row) : Row :=
  match updates.find? fun update => decide (key row = update.1) with
  | some update => update.2 row
  | none => row

/-- With distinct keys, every row is updated at most once. -/
theorem updateEach_eq {key : Row → Id} {updates : List (Id × (Row → Row))}
    (distinct : (updates.map Prod.fst).Nodup)
    (kept : ∀ update ∈ updates, ∀ row, key (update.2 row) = key row) (rows : List Row) :
    updateEach key updates rows = rows.map (updated key updates) := by
  induction updates generalizing rows with
  | nil => exact (List.map_id rows).symm
  | cons update updates ih =>
      rw [List.map_cons, List.nodup_cons] at distinct
      have rest := ih distinct.2 (fun other listed => kept other (List.mem_cons_of_mem _ listed))
        (updateWhere (fun row => decide (key row = update.1)) update.2 rows)
      refine rest.trans ?_
      unfold updateWhere
      rw [List.map_map]
      apply List.map_congr_left
      intro row _
      simp only [Function.comp_apply]
      by_cases own : key row = update.1
      · have missing : updates.find? (fun other => decide (key row = other.1)) = none := by
          rw [List.find?_eq_none]
          intro other listed same
          exact distinct.1 (own ▸ (of_decide_eq_true same) ▸ List.mem_map_of_mem listed)
        simp [own, updated, kept update List.mem_cons_self, own ▸ missing]
      · simp [own, updated]

/-- A row whose key is not listed is left alone. -/
theorem updated_of_not_mem {key : Row → Id} {updates : List (Id × (Row → Row))} {row : Row}
    (unlisted : key row ∉ updates.map Prod.fst) : updated key updates row = row := by
  have missing : updates.find? (fun update => decide (key row = update.1)) = none := by
    rw [List.find?_eq_none]
    intro update listed same
    exact unlisted ((of_decide_eq_true same) ▸ List.mem_map_of_mem listed)
  rw [updated, missing]

/-- A row whose key is listed is updated. -/
theorem updated_of_mem {key : Row → Id} {updates : List (Id × (Row → Row))} {row : Row}
    {update : Id × (Row → Row)} (distinct : (updates.map Prod.fst).Nodup)
    (listed : update ∈ updates) (same : key row = update.1) :
    updated key updates row = update.2 row := by
  unfold updated
  split
  next other found =>
    have otherKey : key row = other.1 := by simpa using List.find?_some found
    rw [List.inj_on_of_nodup_map distinct (List.mem_of_find?_eq_some found) listed
      (otherKey.symm.trans same)]
  next missing =>
    rw [List.find?_eq_none] at missing
    exact absurd (decide_eq_true same) (missing update listed)

/-- Updates that keep the keys do so row by row. -/
theorem key_updated {key : Row → Id} {updates : List (Id × (Row → Row))}
    (kept : ∀ update ∈ updates, ∀ row, key (update.2 row) = key row) (row : Row) :
    key (updated key updates row) = key row := by
  unfold updated
  split
  next update found => exact kept update (List.mem_of_find?_eq_some found) row
  next => rfl

end Keyed

/-! ## The free choices of a database -/

/-- What a database may decide by itself while it answers one statement. -/
structure Choices (Row Id : Type) where
  /-- The order in which the rows are met before `ORDER BY`; it decides ties. -/
  scan : List Row → List Row
  scan_perm : ∀ rows, (scan rows).Perm rows
  /-- The rows another transaction holds locked. -/
  locked : Id → Bool
  /-- The order in which changed rows are returned. -/
  returning : List Row → List Row
  returning_perm : ∀ rows, (returning rows).Perm rows

/-- Stored order everywhere and no row locked. -/
def Choices.plain : Choices Row Id where
  scan rows := rows
  scan_perm rows := .refl rows
  locked _ := false
  returning rows := rows
  returning_perm rows := .refl rows

/-- `UPDATE ... SET assign WHERE condition RETURNING *`. -/
def updateReturning (choices : Choices Row Id) (condition : Row → Bool)
    (assign : Row → Row) (rows : List Row) : List Row × List Row :=
  (updateWhere condition assign rows,
    choices.returning ((rows.filter condition).map assign))

/-! ## Locking select -/

/-- `SELECT ... WHERE condition ORDER BY order ASC LIMIT limit FOR UPDATE SKIP
LOCKED`. Skipped rows do not count towards the limit. -/
def selectForUpdate [LE Time] [DecidableLE Time]
    (choices : Choices Row Id) (key : Row → Id)
    (condition : Row → Bool) (order : Row → Time) (limit : Nat)
    (rows : List Row) : List Row :=
  ((choices.scan (rows.filter fun row =>
      condition row && !choices.locked (key row))).insertionSort
    fun left right => order left ≤ order right).take limit

section Select

variable [LE Time] [DecidableLE Time]
variable {choices : Choices Row Id} {key : Row → Id} {condition : Row → Bool}
variable {order : Row → Time} {limit : Nat} {rows : List Row}

variable (choices key condition order rows) in
private theorem sorted_perm :
    ((choices.scan (rows.filter fun row =>
        condition row && !choices.locked (key row))).insertionSort
      fun left right => order left ≤ order right).Perm
      (rows.filter fun row => condition row && !choices.locked (key row)) :=
  (List.perm_insertionSort _ _).trans (choices.scan_perm _)

/-- Selected rows are rows of the table that meet the condition and are free. -/
theorem mem_of_mem_selectForUpdate {row : Row}
    (selected : row ∈ selectForUpdate choices key condition order limit rows) :
    row ∈ rows ∧ condition row = true ∧ choices.locked (key row) = false := by
  have candidate := (sorted_perm choices key condition order rows).mem_iff.mp
    (List.mem_of_mem_take selected)
  simpa using candidate

/-- Rows with distinct keys are selected at most once. -/
theorem nodup_selectForUpdate (distinct : (rows.map key).Nodup) :
    ((selectForUpdate choices key condition order limit rows).map key).Nodup := by
  have filtered : ((rows.filter fun row =>
      condition row && !choices.locked (key row)).map key).Nodup :=
    distinct.sublist (List.filter_sublist.map key)
  have sorted := (sorted_perm choices key condition order rows).map key
  exact (sorted.nodup_iff.mpr filtered).sublist
    ((List.take_sublist _ _).map key)

/-- A positive limit selects something whenever a free row meets the condition. -/
theorem selectForUpdate_ne_nil (positive : 0 < limit) {row : Row}
    (membership : row ∈ rows) (holds : condition row = true)
    (free : choices.locked (key row) = false) :
    selectForUpdate choices key condition order limit rows ≠ [] := by
  intro empty
  have sortedMembership := (sorted_perm choices key condition order rows).mem_iff.mpr
    (List.mem_filter.mpr ⟨membership, by simp [holds, free]⟩)
  simp only [selectForUpdate, List.take_eq_nil_iff] at empty
  rcases empty with zero | none
  · omega
  · exact List.ne_nil_of_mem sortedMembership none

/-- Looking the selected keys up again finds exactly the selected rows. -/
theorem filter_selected_perm [DecidableEq Id] (distinct : (rows.map key).Nodup) :
    (rows.filter fun row => decide (key row ∈
        (selectForUpdate choices key condition order limit rows).map key)).Perm
      (selectForUpdate choices key condition order limit rows) := by
  have rowsNodup : rows.Nodup := List.Nodup.of_map key distinct
  have selectedNodup :
      (selectForUpdate choices key condition order limit rows).Nodup :=
    List.Nodup.of_map key (nodup_selectForUpdate distinct)
  apply (List.perm_ext_iff_of_nodup (rowsNodup.filter _) selectedNodup).mpr
  intro row
  simp only [List.mem_filter, decide_eq_true_eq, List.mem_map]
  constructor
  · rintro ⟨membership, other, selected, sameKey⟩
    have otherMembership := (mem_of_mem_selectForUpdate selected).1
    have same := List.inj_on_of_nodup_map distinct otherMembership membership sameKey
    exact same ▸ selected
  · intro selected
    exact ⟨(mem_of_mem_selectForUpdate selected).1, row, selected, rfl⟩

end Select

/-! ## Determined selections -/

section Determined

variable [LinearOrder Time]
variable {choices : Choices Row Id} {key : Row → Id} {condition : Row → Bool}
variable {order : Row → Time} {rows : List Row}

/-- Without ties, sorting does not depend on the order in which the rows are met. -/
theorem insertionSort_eq_of_perm {left right : List Row} (same : left.Perm right)
    (untied : (right.map order).Nodup) :
    left.insertionSort (fun first second => order first ≤ order second) =
      right.insertionSort fun first second => order first ≤ order second := by
  have total : Std.Total fun first second : Row => order first ≤ order second :=
    ⟨fun first second => le_total (order first) (order second)⟩
  have transitive : IsTrans Row fun first second => order first ≤ order second :=
    ⟨fun _ _ _ => le_trans⟩
  have sorted : ((left.insertionSort fun first second => order first ≤ order second)).Perm
      (right.insertionSort fun first second => order first ≤ order second) :=
    (List.perm_insertionSort _ _).trans (same.trans (List.perm_insertionSort _ _).symm)
  refine List.Perm.eq_of_pairwise ?_ (List.pairwise_insertionSort _ _)
    (List.pairwise_insertionSort _ _) sorted
  intro first second firstMem secondMem before after
  have firstRight := same.mem_iff.mp ((List.mem_insertionSort _).mp firstMem)
  exact List.inj_on_of_nodup_map untied firstRight ((List.mem_insertionSort _).mp secondMem)
    (le_antisymm before after)

/-- An image that sees the same condition and the same order commutes with selecting the
rows in order. -/
theorem map_insertionSort_filter {image : Row → Image} {imageCondition : Image → Bool}
    {imageOrder : Image → Time} (sameCondition : ∀ row, condition row = imageCondition (image row))
    (sameOrder : ∀ row, order row = imageOrder (image row)) (rows : List Row) :
    ((rows.filter condition).insertionSort
        fun first second => order first ≤ order second).map image =
      ((rows.map image).filter imageCondition).insertionSort
        fun first second => imageOrder first ≤ imageOrder second := by
  have conditions : imageCondition ∘ image = condition := by
    funext row
    exact (sameCondition row).symm
  rw [List.filter_map, conditions]
  apply List.map_insertionSort
  intro first _ second _
  rw [sameOrder, sameOrder]

/-- With no row locked and no ties, a select is determined: the first rows in order. -/
theorem selectForUpdate_determined (unlocked : ∀ id, choices.locked id = false)
    (untied : (rows.map order).Nodup) (limit : Nat) :
    selectForUpdate choices key condition order limit rows =
      ((rows.filter condition).insertionSort
        fun first second => order first ≤ order second).take limit := by
  have free : (fun row => condition row && !choices.locked (key row)) = condition := by
    funext row
    rw [unlocked, Bool.not_false, Bool.and_true]
  unfold selectForUpdate
  rw [free, insertionSort_eq_of_perm (choices.scan_perm _)]
  exact untied.sublist (List.filter_sublist.map order)

/-- A free row that meets the condition is passed over only for a full selection of rows that
do not come after it. -/
theorem selectForUpdate_oldest {limit : Nat} {row : Row} (membership : row ∈ rows)
    (holds : condition row = true) (free : choices.locked (key row) = false)
    (passed : row ∉ selectForUpdate choices key condition order limit rows) :
    (selectForUpdate choices key condition order limit rows).length = limit ∧
      ∀ selected ∈ selectForUpdate choices key condition order limit rows,
        order selected ≤ order row := by
  have candidate := (sorted_perm choices key condition order rows).mem_iff.mpr
    (List.mem_filter.mpr ⟨membership, by simp [holds, free]⟩)
  unfold selectForUpdate at passed ⊢
  generalize choices.scan _ = met at candidate passed ⊢
  have total : Std.Total fun first second : Row => order first ≤ order second :=
    ⟨fun first second => le_total (order first) (order second)⟩
  have transitive : IsTrans Row fun first second => order first ≤ order second :=
    ⟨fun _ _ _ => le_trans⟩
  have sorted := List.pairwise_insertionSort (fun first second => order first ≤ order second) met
  rw [← List.take_append_drop limit (List.insertionSort _ _)] at candidate sorted
  have dropped := (List.mem_append.mp candidate).resolve_left passed
  constructor
  · rw [List.length_take, Nat.min_eq_left]
    have short := List.length_pos_of_mem dropped
    rw [List.length_drop] at short
    omega
  · intro selected taken
    exact (List.pairwise_append.mp sorted).2.2 selected taken row dropped

/-- With no row locked, a select whose limit is high enough takes every row. -/
theorem selectForUpdate_all (unlocked : ∀ id, choices.locked id = false) {limit : Nat}
    (enough : (rows.filter condition).length ≤ limit) :
    (selectForUpdate choices key condition order limit rows).Perm (rows.filter condition) := by
  have free : (fun row => condition row && !choices.locked (key row)) = condition := by
    funext row
    rw [unlocked, Bool.not_false, Bool.and_true]
  have sorted := sorted_perm choices key condition order rows
  rw [free] at sorted
  unfold selectForUpdate
  rw [free, List.take_of_length_le]
  · exact sorted
  · rw [sorted.length_eq]
    exact enough

end Determined

end Pactix.Foundation
