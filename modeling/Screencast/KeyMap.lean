/-!
# Maps sorted by key

A map from texts is a list of pairs in increasing order of keys, without repeated keys. Texts are
ordered by their characters' code points, which is also the order of their UTF-8 bytes.
-/

namespace Screencast

/-- A map from texts, as pairs in increasing order of keys. -/
abbrev KeyMap (value : Type) := List (String × value)

namespace KeyMap

variable {value : Type}

/-- The value under a key. -/
def find? (key : String) : KeyMap value → Option value
  | [] => none
  | (name, entry) :: rest => if name = key then some entry else find? key rest

/-- Put a value under a key, replacing the one that is there. -/
def put (key : String) (entry : value) : KeyMap value → KeyMap value
  | [] => [(key, entry)]
  | (name, old) :: rest =>
    if key < name then (key, entry) :: (name, old) :: rest
    else if key = name then (key, entry) :: rest
    else (name, old) :: put key entry rest

/-- Remove a key. -/
def erase (key : String) (map : KeyMap value) : KeyMap value := map.filter (·.1 ≠ key)

/-- The keys in increasing order. -/
def keys (map : KeyMap value) : List String := map.map (·.1)

/-- The values in the order of their keys. -/
def values (map : KeyMap value) : List value := map.map (·.2)

/-- Put the pairs of a list one after another, so that the last of equal keys wins. -/
def ofList (pairs : List (String × value)) : KeyMap value :=
  pairs.foldl (fun map (key, entry) => put key entry map) []

@[simp] theorem find?_nil (key : String) : find? key ([] : KeyMap value) = none := rfl

/-- What was put under a key is found there, and nothing changes under another key. -/
theorem find?_put (key other : String) (entry : value) (map : KeyMap value) :
    find? other (put key entry map) = if key = other then some entry else find? other map := by
  induction map with
  | nil => simp [put, find?]
  | cons pair rest inductionHypothesis =>
    obtain ⟨name, old⟩ := pair
    unfold put
    split
    · simp [find?]
    · split
      · next same => subst same; by_cases equal : key = other <;> simp [find?, equal]
      · next different =>
        by_cases equal : key = other
        · subst equal
          simp [find?, inductionHypothesis, Ne.symm different]
        · simp [find?, inductionHypothesis, equal]

/-- An erased key is gone, and nothing changes under another key. -/
theorem find?_erase (key other : String) (map : KeyMap value) :
    find? other (erase key map) = if key = other then none else find? other map := by
  induction map with
  | nil => simp [erase]
  | cons pair rest inductionHypothesis =>
    obtain ⟨name, old⟩ := pair
    simp only [erase] at inductionHypothesis
    by_cases gone : name = key
    · subst gone
      by_cases equal : name = other <;> simp_all [erase, find?]
    · by_cases equal : key = other
      · subst equal; simp_all [erase, find?]
      · simp_all [erase, find?]

end KeyMap

end Screencast
