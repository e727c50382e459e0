import Mathlib.Data.List.Nodup

/-!
# Journals that mark first occurrences

A journal lists what has happened, newest entry first.  Many protocols tell the first
occurrence of a key from its repetitions; a journal of their answers is checked here.
-/

namespace Pactix.Foundation

variable {Entry Key : Type}

/-- Exactly the first entry of each key is marked. -/
def MarksFirst (key : Entry → Key) (marked : Entry → Bool) : List Entry → Prop
  | [] => True
  | entry :: earlier =>
      (marked entry = true ↔ ∀ other ∈ earlier, key other ≠ key entry) ∧
        MarksFirst key marked earlier

namespace MarksFirst

variable {key : Entry → Key} {marked : Entry → Bool} {journal : List Entry}

/-- No key is marked twice. -/
theorem nodup (first : MarksFirst key marked journal) :
    ((journal.filter marked).map key).Nodup := by
  induction journal with
  | nil => simp
  | cons entry earlier ih =>
      rw [List.filter_cons]
      split
      next isMarked =>
        rw [List.map_cons, List.nodup_cons]
        refine ⟨fun repeated => ?_, ih first.2⟩
        obtain ⟨other, membership, sameKey⟩ := List.mem_map.mp repeated
        exact first.1.mp isMarked other (List.mem_of_mem_filter membership) sameKey
      next => exact ih first.2

/-- Every key that occurs is marked. -/
theorem key_mem (first : MarksFirst key marked journal) {entry : Entry}
    (membership : entry ∈ journal) : key entry ∈ (journal.filter marked).map key := by
  induction journal generalizing entry with
  | nil => simp at membership
  | cons latest earlier ih =>
      have kept := (((List.sublist_cons_self latest earlier).filter marked).map key).subset
      rcases List.mem_cons.mp membership with rfl | later
      · by_cases before : ∃ other ∈ earlier, key other = key entry
        · obtain ⟨other, otherMem, sameKey⟩ := before
          rw [← sameKey]
          exact kept (ih first.2 otherMem)
        · have isMarked := first.1.mpr fun other otherMem sameKey =>
            before ⟨other, otherMem, sameKey⟩
          exact List.mem_map_of_mem (List.mem_filter.mpr ⟨List.mem_cons_self, isMarked⟩)
      · exact kept (ih first.2 later)

end MarksFirst

end Pactix.Foundation
