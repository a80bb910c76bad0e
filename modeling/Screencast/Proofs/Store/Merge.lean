import Screencast.Store.Pool

/-!
# Writing columns over a row

Columns that were written over a row are found there, the others are left, and writing them a second
time changes nothing.
-/

namespace Screencast

namespace KeyMap

variable {value : Type} {key other : String} {entry added : value} {map : KeyMap value}

/-- Putting a value where it is already changes nothing. -/
@[simp] theorem put_put (key : String) (entry : value) (map : KeyMap value) :
    put key entry (put key entry map) = put key entry map := by
  induction map with
  | nil => simp [put]
  | cons pair rest inductionHypothesis =>
      obtain ⟨name, old⟩ := pair
      by_cases before : key < name
      · simp [put, before]
      · by_cases same : key = name
        · simp [put, same]
        · simp [put, before, same, inductionHypothesis]

/-- A value that is put where it is already stays there when another one is put. -/
theorem put_put_of_ne
    (settled : put key entry map = map)
    (isOther : other ≠ key) :
    put key entry (put other added map) = put other added map := by
  induction map with
  | nil => simp [put] at settled
  | cons pair rest inductionHypothesis =>
      obtain ⟨name, old⟩ := pair
      have isAfter : ¬ key < name := by
        intro before
        have lengths := congrArg List.length settled
        simp [put, before] at lengths
      by_cases same : key = name
      · subst same
        have sameEntry : entry = old := by simpa [put, isAfter] using settled
        subst sameEntry
        by_cases otherBefore : other < key
        · have notBefore : ¬ key < other := fun before =>
            String.lt_irrefl key (String.lt_trans before otherBefore)
          simp [put, otherBefore, notBefore, isOther.symm]
        · simp [put, otherBefore, isOther]
      · have settledRest : put key entry rest = rest := by
          simpa [put, isAfter, same] using settled
        by_cases otherBefore : other < name
        · have notBefore : ¬ key < other := fun before =>
            isAfter (String.lt_trans before otherBefore)
          simp [put, otherBefore, notBefore, isOther.symm, isAfter, same, settledRest]
        · by_cases otherSame : other = name
          · subst otherSame
            simp [put, isAfter, same, settledRest]
          · simp [put, otherBefore, otherSame, isAfter, same, inductionHypothesis settledRest]

/-- A key that is not among the names of a map is not found. -/
theorem find?_eq_none_of_not_mem (absent : key ∉ map.keys) : find? key map = none := by
  induction map with
  | nil => rfl
  | cons pair rest inductionHypothesis =>
      obtain ⟨name, old⟩ := pair
      obtain ⟨isOther, absentRest⟩ := not_or.1 (mt List.mem_cons.2 absent)
      simp [find?, Ne.symm isOther, inductionHypothesis absentRest]

/-- What was put last is found, and under other keys what was there before. -/
theorem find?_foldl_put
    {pairs : KeyMap value}
    (distinct : pairs.keys.Nodup)
    (map : KeyMap value)
    (key : String) :
    find? key (pairs.foldl (fun map (name, entry) => put name entry map) map) =
      (find? key pairs).or (find? key map) := by
  induction pairs generalizing map with
  | nil => rfl
  | cons pair rest inductionHypothesis =>
      obtain ⟨written, entry⟩ := pair
      obtain ⟨absent, distinctRest⟩ := List.nodup_cons.1 distinct
      rw [List.foldl_cons, inductionHypothesis distinctRest, find?_put, find?]
      by_cases same : written = key
      · subst same
        simp [find?_eq_none_of_not_mem absent]
      · simp [same]

theorem find?_ofList
    {pairs : KeyMap value}
    (distinct : pairs.keys.Nodup)
    (key : String) :
    find? key (ofList pairs) = find? key pairs :=
  (find?_foldl_put distinct [] key).trans Option.or_none

end KeyMap

namespace Pool

variable {row changes : Row} {name : String} {entry : Json}

/-- A value that is there stays there when other columns are written. -/
theorem put_merge_of_not_mem
    (settled : row.put name entry = row)
    (absent : name ∉ changes.keys) :
    (merge row changes).put name entry = merge row changes := by
  induction changes generalizing row with
  | nil => exact settled
  | cons pair rest inductionHypothesis =>
      obtain ⟨isOther, absentRest⟩ := not_or.1 (mt List.mem_cons.2 absent)
      exact inductionHypothesis (KeyMap.put_put_of_ne settled (Ne.symm isOther)) absentRest

/-- What is written is there afterwards. -/
theorem put_merge_of_mem
    (distinct : changes.keys.Nodup)
    (present : (name, entry) ∈ changes) :
    (merge row changes).put name entry = merge row changes := by
  induction changes generalizing row with
  | nil => cases present
  | cons pair rest inductionHypothesis =>
      obtain ⟨absent, distinctRest⟩ := List.nodup_cons.1 distinct
      rcases List.mem_cons.1 present with rfl | inRest
      · change (merge (row.put name entry) rest).put name entry = merge (row.put name entry) rest
        exact put_merge_of_not_mem (KeyMap.put_put name entry row) absent
      · exact inductionHypothesis distinctRest inRest

/-- Columns that are there already change nothing when they are written. -/
theorem merge_of_settled
    (settled : ∀ pair ∈ changes, row.put pair.1 pair.2 = row) :
    merge row changes = row := by
  induction changes with
  | nil => rfl
  | cons pair rest inductionHypothesis =>
      obtain ⟨first, settledRest⟩ := List.forall_mem_cons.1 settled
      change merge (row.put pair.1 pair.2) rest = row
      rw [first]
      exact inductionHypothesis settledRest

theorem merge_merge (distinct : changes.keys.Nodup) (row : Row) :
    merge (merge row changes) changes = merge row changes :=
  merge_of_settled fun _ present => put_merge_of_mem distinct present

theorem find?_merge (distinct : changes.keys.Nodup) (row : Row) (name : String) :
    (merge row changes).find? name = (changes.find? name).or (row.find? name) :=
  KeyMap.find?_foldl_put distinct row name

end Pool

end Screencast
