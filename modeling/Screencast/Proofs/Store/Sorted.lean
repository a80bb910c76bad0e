import Mathlib.Data.String.Basic
import Screencast.Proofs.Store.Merge

/-!
# Maps in increasing order of keys

Maps in increasing order of keys are the same if the same is found in them. A row that has been
written over with all columns but its identifier is therefore the row of what was written.
-/

namespace Screencast

namespace KeyMap

variable {value : Type} {key : String} {entry : value} {map : KeyMap value}

/-- The keys of a map are in increasing order. -/
def IsSorted (map : KeyMap value) : Prop := map.keys.Pairwise (· < ·)

/-- What is in a map into which something was put is the new pair or an old one. -/
theorem mem_put
    {pair : String × value}
    (present : pair ∈ put key entry map) :
    pair = (key, entry) ∨ pair ∈ map := by
  induction map with
  | nil => exact Or.inl (List.mem_singleton.1 present)
  | cons first rest inductionHypothesis =>
      obtain ⟨name, old⟩ := first
      unfold put at present
      split at present
      · exact List.mem_cons.1 present
      · split at present
        · exact (List.mem_cons.1 present).imp_right (List.mem_cons_of_mem _)
        · rcases List.mem_cons.1 present with rfl | inRest
          · exact Or.inr List.mem_cons_self
          · exact (inductionHypothesis inRest).imp_right (List.mem_cons_of_mem _)

/-- A key of a map into which something was put is the new key or an old one. -/
theorem mem_keys_put
    {other : String}
    (present : other ∈ (put key entry map).keys) :
    other = key ∨ other ∈ map.keys := by
  obtain ⟨pair, isPair, rfl⟩ := List.mem_map.1 present
  rcases mem_put isPair with rfl | isOld
  · exact Or.inl rfl
  · exact Or.inr (List.mem_map_of_mem isOld)

/-- Putting something into a map keeps its keys in order. -/
theorem IsSorted.put
    (sorted : map.IsSorted)
    (key : String)
    (entry : value) :
    (KeyMap.put key entry map).IsSorted := by
  induction map with
  | nil => exact List.pairwise_singleton _ key
  | cons pair rest inductionHypothesis =>
      obtain ⟨name, old⟩ := pair
      obtain ⟨isBelow, sortedRest⟩ := List.pairwise_cons.1 sorted
      unfold KeyMap.put
      split
      next before =>
        refine List.pairwise_cons.2 ⟨fun other present => ?_, sorted⟩
        rcases List.mem_cons.1 present with rfl | inRest
        · exact before
        · exact lt_trans before (isBelow other inRest)
      next notBefore =>
        split
        next same =>
          subst same
          exact List.pairwise_cons.2 ⟨isBelow, sortedRest⟩
        next isOther =>
          have after : name < key := lt_of_le_of_ne (not_lt.1 notBefore) (Ne.symm isOther)
          refine List.pairwise_cons.2 ⟨fun other present => ?_, inductionHypothesis sortedRest⟩
          rcases mem_keys_put present with rfl | inRest
          · exact after
          · exact isBelow other inRest

/-- Putting things into a map one after another keeps its keys in order. -/
theorem IsSorted.foldl_put
    (sorted : map.IsSorted)
    (pairs : List (String × value)) :
    (pairs.foldl (fun map (name, entry) => KeyMap.put name entry map) map).IsSorted := by
  induction pairs generalizing map with
  | nil => exact sorted
  | cons pair rest inductionHypothesis => exact inductionHypothesis (sorted.put pair.1 pair.2)

/-- Something is found under every key of a map. -/
theorem find?_isSome_of_mem (present : key ∈ map.keys) : (find? key map).isSome = true := by
  induction map with
  | nil => cases present
  | cons pair rest inductionHypothesis =>
      obtain ⟨name, old⟩ := pair
      rw [find?]
      split
      · rfl
      next isOther =>
        rcases List.mem_cons.1 present with rfl | inRest
        · exact absurd rfl isOther
        · exact inductionHypothesis inRest

/-- A key is found in a map exactly if it is one of its keys. -/
theorem find?_eq_none_iff : find? key map = none ↔ key ∉ map.keys := by
  refine ⟨fun isNone present => ?_, find?_eq_none_of_not_mem⟩
  have isSome := find?_isSome_of_mem present
  rw [isNone] at isSome
  cases isSome

theorem find?_eq_none_of_lt
    {name : String}
    (isBelow : ∀ other ∈ map.keys, name < other)
    (before : key ≤ name) :
    find? key map = none :=
  find?_eq_none_of_not_mem fun present => absurd (isBelow key present) (not_lt.2 before)

/-- Maps in order are the same if the same is found in them. -/
theorem IsSorted.eq_of_find?_eq
    {left right : KeyMap value}
    (leftSorted : left.IsSorted)
    (rightSorted : right.IsSorted)
    (same : ∀ key, find? key left = find? key right) :
    left = right := by
  induction left generalizing right with
  | nil =>
      cases right with
      | nil => rfl
      | cons pair rest =>
          have found := same pair.1
          simp [find?] at found
  | cons leftPair lefts inductionHypothesis =>
      obtain ⟨leftName, leftEntry⟩ := leftPair
      cases right with
      | nil =>
          have found := same leftName
          simp [find?] at found
      | cons rightPair rights =>
          obtain ⟨rightName, rightEntry⟩ := rightPair
          obtain ⟨leftBelow, leftsSorted⟩ := List.pairwise_cons.1 leftSorted
          obtain ⟨rightBelow, rightsSorted⟩ := List.pairwise_cons.1 rightSorted
          -- The smaller of the two first keys would be missing in the other map.
          have sameName : leftName = rightName := by
            rcases lt_trichotomy leftName rightName with before | isEqual | after
            · have found := same leftName
              have missing := find?_eq_none_of_lt rightBelow before.le
              simp [find?, before.ne', missing] at found
            · exact isEqual
            · have found := same rightName
              have missing := find?_eq_none_of_lt leftBelow after.le
              simp [find?, after.ne', missing] at found
          subst sameName
          have sameEntry : leftEntry = rightEntry := by
            simpa [find?] using same leftName
          subst sameEntry
          have sameRest : lefts = rights := by
            refine inductionHypothesis leftsSorted rightsSorted fun key => ?_
            by_cases isFirst : leftName = key
            · subst isFirst
              rw [find?_eq_none_of_lt leftBelow le_rfl, find?_eq_none_of_lt rightBelow le_rfl]
            · simpa [find?, isFirst] using same key
          rw [sameRest]

/-- What is found under a key is in the map. -/
theorem mem_of_find?_eq_some (isFound : find? key map = some entry) : (key, entry) ∈ map := by
  induction map with
  | nil => cases isFound
  | cons pair rest inductionHypothesis =>
      obtain ⟨name, old⟩ := pair
      rw [find?] at isFound
      split at isFound
      next same =>
        obtain rfl := Option.some.inj isFound
        exact same ▸ List.mem_cons_self
      next => exact List.mem_cons_of_mem _ (inductionHypothesis isFound)

/-- What is in a map with different keys is found. -/
theorem find?_eq_some_of_mem
    (distinct : map.keys.Nodup)
    (present : (key, entry) ∈ map) :
    find? key map = some entry := by
  induction map with
  | nil => cases present
  | cons pair rest inductionHypothesis =>
      obtain ⟨name, old⟩ := pair
      obtain ⟨absent, distinctRest⟩ := List.nodup_cons.1 distinct
      rw [find?]
      rcases List.mem_cons.1 present with same | inRest
      · obtain ⟨rfl, rfl⟩ := Prod.mk.inj same
        exact if_pos rfl
      · have isOther : name ≠ key := by
          rintro rfl
          exact absent (List.mem_map.2 ⟨(name, entry), inRest, rfl⟩)
        rw [if_neg isOther, inductionHypothesis distinctRest inRest]

/-- In maps of the same pairs with different keys the same is found, whatever their order. -/
theorem find?_eq_of_perm
    {other : KeyMap value}
    (distinct : map.keys.Nodup)
    (perm : other.Perm map)
    (key : String) :
    find? key other = find? key map := by
  have distinctToo : other.keys.Nodup := (perm.map Prod.fst).nodup_iff.2 distinct
  refine Option.ext fun entry => ⟨fun isFound => ?_, fun isFound => ?_⟩
  · exact find?_eq_some_of_mem distinct (perm.mem_iff.1 (mem_of_find?_eq_some isFound))
  · exact find?_eq_some_of_mem distinctToo (perm.mem_iff.2 (mem_of_find?_eq_some isFound))

theorem IsSorted.nodup (sorted : map.IsSorted) : map.keys.Nodup :=
  sorted.imp fun before => before.ne

/-- A map in order is the map of its pairs, in whatever order these are given. -/
theorem IsSorted.ofList_eq_of_perm
    {pairs : List (String × value)}
    (sorted : map.IsSorted)
    (perm : pairs.Perm map) :
    ofList pairs = map := by
  have nothing : IsSorted ([] : KeyMap value) := List.Pairwise.nil
  have distinct : (KeyMap.keys pairs).Nodup := (perm.map Prod.fst).nodup_iff.2 sorted.nodup
  refine (nothing.foldl_put pairs).eq_of_find?_eq sorted fun key => ?_
  exact (find?_ofList distinct key).trans (find?_eq_of_perm sorted.nodup perm key)

theorem IsSorted.ofList_eq (sorted : map.IsSorted) : ofList map = map :=
  sorted.ofList_eq_of_perm (List.Perm.refl map)

theorem erase_of_not_mem (absent : key ∉ map.keys) : erase key map = map := by
  refine List.filter_eq_self.2 fun pair present => decide_eq_true fun isKey => ?_
  exact absent (isKey ▸ List.mem_map_of_mem present)

/-- A key that is put into a map without it can be erased again. -/
theorem erase_put_of_not_mem (absent : key ∉ map.keys) : erase key (put key entry map) = map := by
  induction map with
  | nil => simp [put, erase]
  | cons pair rest inductionHypothesis =>
      obtain ⟨name, old⟩ := pair
      obtain ⟨isOther, absentRest⟩ := not_or.1 (mt List.mem_cons.2 absent)
      unfold put
      split
      · have dropped : erase key ((key, entry) :: (name, old) :: rest) =
            erase key ((name, old) :: rest) := by simp [erase]
        rw [dropped, erase_of_not_mem absent]
      · have kept : erase key ((name, old) :: put key entry rest) =
            (name, old) :: erase key (put key entry rest) := by
          simp [erase, Ne.symm isOther]
        rw [kept, inductionHypothesis absentRest]

end KeyMap

namespace Pool

variable {columns changes : Row} {name : String}

theorem isSorted_merge
    {row : Row}
    (sorted : KeyMap.IsSorted row)
    (changes : Row) :
    KeyMap.IsSorted (merge row changes) :=
  KeyMap.IsSorted.foldl_put sorted changes

/-- A column of a row over which others were written is one of these or an old one. -/
theorem mem_merge
    {row : Row}
    {pair : String × Json}
    (present : pair ∈ merge row changes) :
    pair ∈ changes ∨ pair ∈ row := by
  induction changes generalizing row with
  | nil => exact Or.inr present
  | cons first rest inductionHypothesis =>
      rcases inductionHypothesis present with isLater | isPut
      · exact Or.inl (List.mem_cons_of_mem first isLater)
      · rcases KeyMap.mem_put isPut with rfl | isOld
        · exact Or.inl List.mem_cons_self
        · exact Or.inr isOld

/-- If all columns of a row but one are written over, the row is what was written with this one. -/
theorem merge_put_of_keys_eq
    (sorted : KeyMap.IsSorted changes)
    (sameKeys : columns.keys = changes.keys)
    (absent : name ∉ changes.keys)
    (entry : Json) :
    merge (columns.put name entry) changes = changes.put name entry := by
  have columnsSorted : KeyMap.IsSorted columns := by
    rw [KeyMap.IsSorted, sameKeys]
    exact sorted
  have distinct : changes.keys.Nodup := sorted.nodup
  refine (isSorted_merge (columnsSorted.put name entry) changes).eq_of_find?_eq
    (sorted.put name entry) fun key => ?_
  rw [find?_merge distinct, KeyMap.find?_put, KeyMap.find?_put]
  by_cases isName : name = key
  · subst isName
    simp [KeyMap.find?_eq_none_of_not_mem absent]
  · rw [if_neg isName, if_neg isName]
    -- A column that is not written over is not in the row either.
    cases found : KeyMap.find? key changes with
    | some value => rfl
    | none =>
        rw [KeyMap.find?_eq_none_iff, ← sameKeys, ← KeyMap.find?_eq_none_iff] at found
        simp [found]

end Pool

end Screencast
