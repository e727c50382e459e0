import Mathlib.Data.List.Find
import Mathlib.Data.List.Induction
import Mathlib.Data.List.Nodup

/-!
# Dictionaries as lists of items

An insertion-ordered dictionary is the list of its items, one for each key.  Setting a key
keeps its place or appends it; the order shows when keys are later renamed and collide, as
then the last item wins.
-/

namespace Pactix.Foundation.Dict

variable {Key Name Value : Type} [DecidableEq Key]

/-- `items[key] = value`. -/
def set (key : Key) (value : Value) : List (Key × Value) → List (Key × Value)
  | [] => [(key, value)]
  | item :: items =>
      if item.1 = key then (key, value) :: items else item :: set key value items

/-- `items.update(others)`. -/
def update (items others : List (Key × Value)) : List (Key × Value) :=
  others.foldl (fun items item => set item.1 item.2 items) items

/-- Set the keys that have a value. -/
def setPresent (fields : List (Key × Option Value)) (items : List (Key × Value)) :
    List (Key × Value) :=
  fields.foldl (fun items field =>
    match field.2 with
    | some value => set field.1 value items
    | none => items) items

/-- The dictionary of some pairs, in which the last pair of a key wins. -/
def ofItems (pairs : List (Key × Value)) : List (Key × Value) := update [] pairs

/-- `items.get(key)`. -/
def get (key : Key) (items : List (Key × Value)) : Option Value :=
  (items.find? fun item => decide (item.1 = key)).map Prod.snd

/-- The pairs, each with the value of the first one of its key. -/
def firsts (pairs : List (Key × Value)) : List (Key × Value) :=
  pairs.map fun pair => (pair.1, (get pair.1 pairs).getD pair.2)

/-- The last item whose key is wanted. -/
def latest (wanted : Key → Bool) (items : List (Key × Value)) : Option (Key × Value) :=
  items.reverse.find? fun item => wanted item.1

/-! ## Keys -/

section Keys

variable {key : Key} {value : Value} {items : List (Key × Value)}

theorem keys_set (key : Key) (value : Value) (items : List (Key × Value)) :
    (set key value items).map Prod.fst =
      if key ∈ items.map Prod.fst then items.map Prod.fst else items.map Prod.fst ++ [key] := by
  induction items with
  | nil => simp [set]
  | cons item items ih =>
      simp only [set]
      split
      next same => simp [same]
      next different =>
        simp only [List.map_cons, ih, List.mem_cons, Ne.symm different, false_or]
        split <;> rfl

theorem mem_keys_set {other : Key} :
    other ∈ (set key value items).map Prod.fst ↔ other = key ∨ other ∈ items.map Prod.fst := by
  rw [keys_set]
  split
  next known =>
    constructor
    · exact .inr
    · rintro (rfl | stored)
      · exact known
      · exact stored
  next => rw [List.mem_append, List.mem_singleton, or_comm]

theorem nodup_keys_set (distinct : (items.map Prod.fst).Nodup) :
    ((set key value items).map Prod.fst).Nodup := by
  rw [keys_set]
  split
  · exact distinct
  next unknown =>
    exact distinct.append (List.nodup_singleton key) (List.disjoint_singleton.mpr unknown)

theorem nodup_keys_update (distinct : (items.map Prod.fst).Nodup)
    (others : List (Key × Value)) : ((update items others).map Prod.fst).Nodup := by
  induction others generalizing items with
  | nil => exact distinct
  | cons other others ih => exact ih (nodup_keys_set distinct)

theorem mem_keys_update {others : List (Key × Value)} :
    key ∈ (update items others).map Prod.fst ↔
      key ∈ items.map Prod.fst ∨ key ∈ others.map Prod.fst := by
  induction others generalizing items with
  | nil => simp [update]
  | cons other others ih =>
      refine ih.trans ?_
      rw [mem_keys_set, List.map_cons, List.mem_cons, or_comm (a := key = other.1), or_assoc]

theorem nodup_keys_ofItems (pairs : List (Key × Value)) :
    ((ofItems pairs).map Prod.fst).Nodup :=
  nodup_keys_update (by simp) pairs

theorem nodup_keys_setPresent (distinct : (items.map Prod.fst).Nodup)
    (fields : List (Key × Option Value)) :
    ((setPresent fields items).map Prod.fst).Nodup := by
  induction fields generalizing items with
  | nil => exact distinct
  | cons field fields ih =>
      obtain ⟨name, _ | value⟩ := field
      · exact ih distinct
      · exact ih (nodup_keys_set distinct)

/-- Setting a new key appends it. -/
theorem set_of_not_mem (unknown : key ∉ items.map Prod.fst) :
    set key value items = items ++ [(key, value)] := by
  induction items with
  | nil => rfl
  | cons item items ih =>
      rw [List.map_cons, List.mem_cons, not_or] at unknown
      rw [set, if_neg (Ne.symm unknown.1), ih unknown.2, List.cons_append]

/-- Setting a known key replaces its value in place. -/
theorem set_of_mem (distinct : (items.map Prod.fst).Nodup) (known : key ∈ items.map Prod.fst) :
    set key value items =
      items.map fun item => if item.1 = key then (key, value) else item := by
  induction items with
  | nil => simp at known
  | cons item items ih =>
      rw [List.map_cons, List.nodup_cons] at distinct
      simp only [set, List.map_cons]
      split
      next same =>
        have others : items.map (fun item => if item.1 = key then (key, value) else item) =
            items := by
          rw [List.map_congr_left (g := id), List.map_id]
          intro other membership
          have different : other.1 ≠ key := fun sameKey =>
            distinct.1 (same ▸ sameKey ▸ List.mem_map_of_mem membership)
          simp [different]
        rw [others]
      next different =>
        rw [List.map_cons, List.mem_cons] at known
        rw [ih distinct.2 (known.resolve_left (Ne.symm different))]

end Keys

/-! ## The last item -/

section Latest

variable {wanted : Key → Bool} {key : Key} {value : Value} {items : List (Key × Value)}

omit [DecidableEq Key] in
theorem latest_concat (item : Key × Value) :
    latest wanted (items ++ [item]) = if wanted item.1 then some item else latest wanted items := by
  simp only [latest, List.reverse_append, List.reverse_singleton, List.singleton_append,
    List.find?_cons]
  cases wanted item.1 <;> rfl

omit [DecidableEq Key] in
theorem latest_eq_none :
    latest wanted items = none ↔ ∀ key ∈ items.map Prod.fst, wanted key = false := by
  simp [latest]

omit [DecidableEq Key] in
/-- The last wanted item is wanted, and it is an item. -/
theorem latest_eq_some {item : Key × Value} (found : latest wanted items = some item) :
    item ∈ items ∧ wanted item.1 = true :=
  ⟨List.mem_reverse.mp (List.mem_of_find?_eq_some found), by
    simpa using List.find?_some (p := fun item : Key × Value => wanted item.1) found⟩

omit [DecidableEq Key] in
/-- Changing values in place changes the value of the last item. -/
theorem latest_map {image : Key × Value → Key × Value} (keeps : ∀ item, (image item).1 = item.1)
    (items : List (Key × Value)) :
    latest wanted (items.map image) = (latest wanted items).map image := by
  have sameKeys : (fun item : Key × Value => wanted item.1) ∘ image =
      fun item => wanted item.1 := by
    funext item
    rw [Function.comp_apply, keeps]
  rw [latest, ← List.map_reverse, List.find?_map, sameKeys, latest]

omit [DecidableEq Key] in
/-- Renaming keys renames the last item. -/
theorem latest_rename (rename : Key → Name) (wanted : Name → Bool) (items : List (Key × Value)) :
    latest wanted (items.map fun item => (rename item.1, item.2)) =
      (latest (fun key => wanted (rename key)) items).map fun item => (rename item.1, item.2) := by
  rw [latest, ← List.map_reverse, List.find?_map, latest]
  rfl

/-- Setting a key that is not wanted changes nothing. -/
theorem latest_set_of_not (distinct : (items.map Prod.fst).Nodup) (unwanted : wanted key = false) :
    latest wanted (set key value items) = latest wanted items := by
  by_cases known : key ∈ items.map Prod.fst
  · rw [set_of_mem distinct known, latest_map]
    · cases found : latest wanted items with
      | none => rfl
      | some item =>
          have different : item.1 ≠ key := by
            intro same
            have isWanted := (latest_eq_some found).2
            rw [same, unwanted] at isWanted
            exact absurd isWanted (by simp)
          rw [Option.map_some, if_neg different]
    · intro item
      split
      next same => exact same.symm
      next => rfl
  · rw [set_of_not_mem known, latest_concat, unwanted]
    rfl

/-- After a wanted key has been set, the last item has the value exactly when the key is
new, or is itself the last one, or the last one has the value anyway. -/
theorem latest_set_value (distinct : (items.map Prod.fst).Nodup) (isWanted : wanted key = true) :
    (latest wanted (set key value items)).map Prod.snd = some value ↔
      key ∉ items.map Prod.fst ∨
        ∃ item ∈ latest wanted items, item.1 = key ∨ item.2 = value := by
  by_cases known : key ∈ items.map Prod.fst
  · rw [set_of_mem distinct known, latest_map]
    · cases found : latest wanted items with
      | none => exact absurd isWanted (by simp [latest_eq_none.mp found key known])
      | some item =>
          by_cases same : item.1 = key <;> simp [known, same]
    · intro item
      split
      next same => exact same.symm
      next => rfl
  · rw [set_of_not_mem known, latest_concat]
    simp [isWanted, known]

/-! ## Fields -/

/-- Fields that are not wanted, or absent, change nothing. -/
theorem latest_setPresent_of_not (distinct : (items.map Prod.fst).Nodup)
    {fields : List (Key × Option Value)}
    (unwanted : ∀ field ∈ fields, field.2.isSome = true → wanted field.1 = false) :
    latest wanted (setPresent fields items) = latest wanted items := by
  induction fields generalizing items with
  | nil => rfl
  | cons field fields ih =>
      obtain ⟨first, rest⟩ := List.forall_mem_cons.mp unwanted
      obtain ⟨name, _ | value⟩ := field
      · exact ih distinct rest
      · exact (ih (nodup_keys_set distinct) rest).trans (latest_set_of_not distinct (first rfl))

/-- The keys after setting fields. -/
theorem mem_keys_setPresent {fields : List (Key × Option Value)} :
    key ∈ (setPresent fields items).map Prod.fst ↔
      (∃ field ∈ fields, field.1 = key ∧ field.2.isSome = true) ∨ key ∈ items.map Prod.fst := by
  induction fields generalizing items with
  | nil => simp [setPresent]
  | cons field fields ih =>
      obtain ⟨name, _ | value⟩ := field
      · simp only [List.exists_mem_cons_iff, Option.isSome_none, Bool.false_eq_true, and_false,
          false_or]
        exact ih
      · simp only [List.exists_mem_cons_iff, Option.isSome_some, and_true]
        refine ih.trans ?_
        rw [mem_keys_set, eq_comm (a := key), or_left_comm, or_assoc]

/-- When one field alone is wanted and it is present, it is read back exactly when its key
is new, or is the last wanted one, or the last wanted one has the value anyway. -/
theorem latest_setPresent_value (distinct : (items.map Prod.fst).Nodup)
    {fields : List (Key × Option Value)} (names : (fields.map Prod.fst).Nodup)
    (present : (key, some value) ∈ fields) (isWanted : wanted key = true)
    (others : ∀ field ∈ fields, field.1 ≠ key → wanted field.1 = false) :
    (latest wanted (setPresent fields items)).map Prod.snd = some value ↔
      key ∉ items.map Prod.fst ∨
        ∃ item ∈ latest wanted items, item.1 = key ∨ item.2 = value := by
  obtain ⟨before, after, rfl⟩ := List.append_of_mem present
  rw [List.map_append, List.map_cons, List.nodup_append] at names
  obtain ⟨_, namesAfter, apart⟩ := names
  have different : ∀ field, field ∈ before ∨ field ∈ after → field.1 ≠ key := by
    rintro field (early | late) same
    · exact apart field.1 (List.mem_map_of_mem early) key List.mem_cons_self same
    · have repeated := List.mem_map_of_mem (f := Prod.fst) late
      rw [same] at repeated
      exact (List.nodup_cons.mp namesAfter).1 repeated
  have unwanted : ∀ field, field ∈ before ∨ field ∈ after → wanted field.1 = false := by
    intro field membership
    refine others field ?_ (different field membership)
    rcases membership with early | late
    · exact List.mem_append_left _ early
    · exact List.mem_append_right _ (List.mem_cons_of_mem _ late)
  have prepared := nodup_keys_setPresent distinct before
  have split : setPresent (before ++ (key, some value) :: after) items =
      setPresent after (set key value (setPresent before items)) := by
    simp only [setPresent, List.foldl_append, List.foldl_cons]
  rw [split, latest_setPresent_of_not (nodup_keys_set prepared) fun field late _ =>
      unwanted field (.inr late),
    latest_set_value prepared isWanted,
    latest_setPresent_of_not distinct fun field early _ => unwanted field (.inl early)]
  rw [mem_keys_setPresent, not_or]
  have absent : ¬∃ field ∈ before, field.1 = key ∧ field.2.isSome = true := by
    rintro ⟨field, early, same, _⟩
    exact different field (.inl early) same
  simp only [absent, not_false_eq_true, true_and]

end Latest

/-! ## Reading -/

section Get

variable {key other : Key} {value : Value} {items : List (Key × Value)}

theorem get_set : get other (set key value items) =
    if other = key then some value else get other items := by
  induction items with
  | nil => by_cases same : other = key <;> simp [get, set, same, Ne.symm]
  | cons item items ih =>
      simp only [get] at ih
      simp only [get, set]
      split
      next sameKey =>
        by_cases same : key = other <;> simp [same, sameKey, Ne.symm]
      next differentKey =>
        by_cases same : item.1 = other
        · subst same
          simp [differentKey]
        · simp [same, ih]

/-- In a dictionary made of pairs, the last pair of a key is found. -/
theorem get_ofItems (pairs : List (Key × Value)) :
    get key (ofItems pairs) = (latest (fun name => decide (name = key)) pairs).map Prod.snd := by
  induction pairs using List.reverseRecOn with
  | nil => rfl
  | append_singleton pairs pair ih =>
      rw [latest_concat, ofItems, update, List.foldl_append, List.foldl_cons, List.foldl_nil]
      refine get_set.trans ?_
      by_cases same : pair.1 = key
      · simp [same]
      · rw [if_neg (Ne.symm same)]
        simp only [same, decide_false, Bool.false_eq_true, if_false]
        exact ih

theorem update_eq_append {others : List (Key × Value)}
    (distinct : ((items ++ others).map Prod.fst).Nodup) :
    update items others = items ++ others := by
  induction others generalizing items with
  | nil => simp [update]
  | cons item others ih =>
      have unknown : item.1 ∉ items.map Prod.fst := by
        rw [List.map_append, List.map_cons, List.nodup_append] at distinct
        exact fun known => distinct.2.2 item.1 known item.1 List.mem_cons_self rfl
      rw [List.append_cons] at distinct
      simp only [update, List.foldl_cons] at ih ⊢
      rw [set_of_not_mem unknown]
      exact (ih distinct).trans (List.append_cons ..).symm

/-- With one item for each key, what is found is what is there. -/
theorem get_eq_some (distinct : (items.map Prod.fst).Nodup) :
    get key items = some value ↔ (key, value) ∈ items := by
  rw [get, Option.map_eq_some_iff]
  constructor
  · rintro ⟨item, found, rfl⟩
    have same : item.1 = key := by simpa using List.find?_some found
    exact same ▸ List.mem_of_find?_eq_some found
  · intro listed
    cases found : items.find? fun item => decide (item.1 = key) with
    | none => simpa using List.find?_eq_none.mp found _ listed
    | some item =>
        have same : item.1 = key := by simpa using List.find?_some found
        exact ⟨item, rfl, congrArg Prod.snd (List.inj_on_of_nodup_map distinct
          (List.mem_of_find?_eq_some found) listed same)⟩

/-- The order of the items does not matter. -/
theorem get_perm {others : List (Key × Value)} (distinct : (items.map Prod.fst).Nodup)
    (permuted : others.Perm items) : get key others = get key items := by
  have othersDistinct : (others.map Prod.fst).Nodup :=
    (permuted.map Prod.fst).nodup_iff.mpr distinct
  apply Option.ext
  intro value
  rw [get_eq_some othersDistinct, get_eq_some distinct]
  exact permuted.mem_iff

/-- With one item for each key, the last one is the one. -/
theorem get_eq_latest (distinct : (items.map Prod.fst).Nodup) :
    get key items = (latest (fun name => decide (name = key)) items).map Prod.snd := by
  have whole : ofItems items = items := update_eq_append (by simpa using distinct)
  rw [← get_ofItems, whole]

/-- Where no other key is wanted, the first wanted item is the one of the key. -/
theorem find_eq_get (wanted : Key → Bool) (isWanted : wanted key = true)
    (only : ∀ other ∈ items.map Prod.fst, wanted other = true → other = key) :
    (items.find? fun item => wanted item.1).map Prod.snd = get key items := by
  rw [get]
  congr 1
  apply List.find?_congr
  intro item listed
  rw [Bool.eq_iff_iff, decide_eq_true_eq]
  exact ⟨only item.1 (List.mem_map_of_mem listed), fun same => same ▸ isWanted⟩

/-- In a dictionary made of the first pairs, the first pair of a key is found. -/
theorem get_firsts (pairs : List (Key × Value)) :
    get key (ofItems (firsts pairs)) = get key pairs := by
  let image := fun pair : Key × Value => (pair.1, (get pair.1 pairs).getD pair.2)
  have keeps : ∀ pair, (image pair).1 = pair.1 := fun _ => rfl
  rw [get_ofItems, firsts, latest_map keeps]
  cases found : latest (fun name => decide (name = key)) pairs with
  | none =>
      have absent := latest_eq_none.mp found
      rw [eq_comm, get, Option.map_none, Option.map_none, Option.map_eq_none_iff,
        List.find?_eq_none]
      intro pair listed
      simpa using absent pair.1 (List.mem_map_of_mem listed)
  | some pair =>
      obtain ⟨listed, isKey⟩ := latest_eq_some found
      obtain rfl : pair.1 = key := of_decide_eq_true isKey
      have known : (get pair.1 pairs).isSome = true := by
        rw [get, Option.isSome_map, List.find?_isSome]
        exact ⟨pair, listed, isKey⟩
      obtain ⟨value, first⟩ := Option.isSome_iff_exists.mp known
      simp only [image, Option.map_some, first, Option.getD_some]

end Get

end Pactix.Foundation.Dict
