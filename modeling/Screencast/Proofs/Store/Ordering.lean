import Mathlib.Data.List.Forall2
import Screencast.Proofs.Store.Pool
import Screencast.Proofs.Store.Record

/-!
# Ordered rows

Rows that an order does not tell apart stay in the order in which they stand in their table. So the
first of the rows with a value comes first among them in a selection too, whatever the order of the
selection is.
-/

namespace Screencast

namespace Pool

@[simp] theorem compareValues_self (value : Option Json) : compareValues value value = .eq := by
  cases value with
  | none => rfl
  | some value => cases value <;> simp [compareValues]

/-- Rows with the same value in the column of an order are not told apart. -/
theorem compareRows_of_find?_eq
    {order : Order}
    {left right : Row}
    (same : left.find? order.column = right.find? order.column) :
    compareRows order left right = .eq := by
  rw [compareRows, same, compareValues_self]
  split <;> rfl

variable {order : Order} {holds : Row → Bool}

/-- A row is put behind those rows of a class that it is not told apart from. -/
theorem filter_insertLast
    {row : Row}
    {sorted : List Row}
    (stays : holds row = true → ∀ other ∈ sorted, holds other = true →
      compareRows order row other ≠ .lt) :
    (insertLast order row sorted).filter holds =
      (if holds row then [row] else []) ++ sorted.filter holds := by
  induction sorted with
  | nil => rw [insertLast, List.filter_cons, List.filter_nil, List.append_nil]
  | cons last rest inductionHypothesis =>
      have staysInRest := fun isHeld other among =>
        stays isHeld other (List.mem_cons_of_mem last among)
      unfold insertLast
      split
      next before =>
        -- The row goes past the last one, which is then not in the class, if the row is.
        rw [List.filter_cons, inductionHypothesis staysInRest]
        cases isHeld : holds row with
        | false => simp [List.filter_cons]
        | true =>
            have notHeld : holds last = false := by
              rw [Bool.eq_false_iff]
              exact fun isLast => stays isHeld last List.mem_cons_self isLast before
            simp [notHeld]
      next => cases isHeld : holds row <;> simp [List.filter_cons, isHeld]

/-- Sorting keeps the rows of a class in their places relative to each other, if the order does not
tell them apart. -/
theorem filter_sortRows
    {rows : List Row}
    (stay : ∀ left ∈ rows, ∀ right ∈ rows, holds left = true → holds right = true →
      compareRows order left right ≠ .lt) :
    (sortRows order rows).filter holds = rows.filter holds := by
  -- Rows that were sorted before are given from the last to the first.
  have inserted (sorted : List Row) (among : ∀ row ∈ rows, ∀ other ∈ sorted, holds row = true →
      holds other = true → compareRows order row other ≠ .lt) :
      (rows.foldl (fun sorted row => insertLast order row sorted) sorted).filter holds =
        (rows.filter holds).reverse ++ sorted.filter holds := by
    induction rows generalizing sorted with
    | nil => rfl
    | cons first rest inductionHypothesis =>
        have stayInRest := fun left isLeft right isRight =>
          stay left (List.mem_cons_of_mem first isLeft) right (List.mem_cons_of_mem first isRight)
        have amongMore : ∀ row ∈ rest, ∀ other ∈ insertLast order first sorted, holds row = true →
            holds other = true → compareRows order row other ≠ .lt := by
          intro row isThere other isOther
          rcases mem_insertLast_iff.1 isOther with rfl | isOld
          · exact stay row (List.mem_cons_of_mem _ isThere) _ List.mem_cons_self
          · exact among row (List.mem_cons_of_mem first isThere) other isOld
        have stays : holds first = true → ∀ other ∈ sorted, holds other = true →
            compareRows order first other ≠ .lt :=
          fun isHeld other isOther => among first List.mem_cons_self other isOther isHeld
        rw [List.foldl_cons, inductionHypothesis stayInRest _ amongMore, filter_insertLast stays,
          List.filter_cons]
        cases holds first <;> simp
  have sorted := inserted [] fun _ _ _ isOther => nomatch isOther
  rw [sortRows, List.filter_reverse, sorted, List.filter_nil, List.append_nil, List.reverse_reverse]

end Pool

namespace Stored

variable {record : Type} [Record record] {rows : List Row} {entries : List (Stored record)}

/-- Rows are read as entries exactly if each of them is read as the entry in its place. -/
theorem decodeAll_eq_ok_iff :
    decodeAll rows = Except.ok entries ↔
      List.Forall₂ (fun row entry => decode row = Except.ok entry) rows entries := by
  have ofRow_eq_ok_iff (read : Except RowError (Stored record)) (entry : Stored record) :
      Query.ofRow read = Except.ok entry ↔ read = Except.ok entry := by
    cases read with
    | error failure => exact ⟨nofun, nofun⟩
    | ok value => exact ⟨fun same => congrArg _ (Except.ok.inj same), fun same =>
        congrArg _ (Except.ok.inj same)⟩
  induction rows generalizing entries with
  | nil =>
      rw [List.forall₂_nil_left_iff]
      exact ⟨fun same => (Except.ok.inj same).symm, fun same => same ▸ rfl⟩
  | cons row rest inductionHypothesis =>
      rw [decodeAll, List.mapM_cons, bind_eq_ok_iff, List.forall₂_cons_left_iff]
      constructor
      · rintro ⟨entry, isRead, more⟩
        obtain ⟨others, areRead, same⟩ := bind_eq_ok_iff.1 more
        exact ⟨entry, others, (ofRow_eq_ok_iff _ _).1 isRead, inductionHypothesis.1 areRead,
          (Except.ok.inj same).symm⟩
      · rintro ⟨entry, others, isRead, areRead, rfl⟩
        exact ⟨entry, (ofRow_eq_ok_iff _ _).2 isRead,
          bind_eq_ok_iff.2 ⟨others, inductionHypothesis.2 areRead, rfl⟩⟩

/-- Rows are read exactly if each of them is. -/
theorem exists_decodeAll_iff :
    (∃ entries : List (Stored record), decodeAll rows = Except.ok entries) ↔
      ∀ row ∈ rows, ∃ entry : Stored record, decode row = Except.ok entry := by
  simp only [decodeAll_eq_ok_iff]
  induction rows with
  | nil => simp
  | cons row rest inductionHypothesis =>
      rw [List.forall_mem_cons, ← inductionHypothesis]
      constructor
      · rintro ⟨_, areRead⟩
        cases areRead with
        | cons isRead others => exact ⟨⟨_, isRead⟩, _, others⟩
      · rintro ⟨⟨entry, isRead⟩, others, areRead⟩
        exact ⟨entry :: others, List.Forall₂.cons isRead areRead⟩

/-- If rows are read as entries, then those that are read as entries that pass a test are read as
these. -/
theorem decodeAll_filter
    (areRead : decodeAll rows = Except.ok entries)
    {test : Stored record → Bool}
    {holds : Row → Bool}
    (sameTest : ∀ row entry, decode row = Except.ok entry → holds row = test entry) :
    decodeAll (rows.filter holds) = Except.ok (entries.filter test) := by
  rw [decodeAll_eq_ok_iff] at areRead ⊢
  refine List.rel_filter (fun row entry isRead => ?_) areRead
  exact iff_of_eq (congrArg (· = true) (sameTest row entry isRead))

/-- If rows are read as entries, they are read in every order. The first entry that passes a test is
the same one, if the order does not tell apart the rows of entries that pass it. -/
theorem exists_decodeAll_sortRows
    (areRead : decodeAll rows = Except.ok entries)
    (order : Order) :
    ∃ sorted : List (Stored record), decodeAll (Pool.sortRows order rows) = Except.ok sorted ∧
      ∀ test : Stored record → Bool,
        (∀ left right : Row, ∀ first second : Stored record,
          decode left = Except.ok first → decode right = Except.ok second →
          test first = true → test second = true → Pool.compareRows order left right ≠ .lt) →
        sorted.find? test = entries.find? test := by
  have eachRead := exists_decodeAll_iff.1 ⟨entries, areRead⟩
  obtain ⟨sorted, sortedRead⟩ : ∃ sorted : List (Stored record),
      decodeAll (Pool.sortRows order rows) = Except.ok sorted :=
    exists_decodeAll_iff.2 fun row among => eachRead row (Pool.mem_sortRows_iff.1 among)
  refine ⟨sorted, sortedRead, fun test notApart => ?_⟩
  -- A row is in the class of the test if it is read as an entry that passes.
  let holds (row : Row) : Bool :=
    match (decode row : Except RowError (Stored record)) with
    | Except.ok entry => test entry
    | Except.error _ => false
  have sameTest : ∀ (row : Row) (entry : Stored record), decode row = Except.ok entry →
      holds row = test entry := by
    intro row entry isRead
    simp only [holds, isRead]
  have stay : ∀ left ∈ rows, ∀ right ∈ rows, holds left = true → holds right = true →
      Pool.compareRows order left right ≠ .lt := by
    intro left isLeft right isRight leftHeld rightHeld
    obtain ⟨first, firstRead⟩ := eachRead left isLeft
    obtain ⟨second, secondRead⟩ := eachRead right isRight
    rw [sameTest left first firstRead] at leftHeld
    rw [sameTest right second secondRead] at rightHeld
    exact notApart left right first second firstRead secondRead leftHeld rightHeld
  have inOrder := decodeAll_filter sortedRead sameTest
  rw [Pool.filter_sortRows stay, decodeAll_filter areRead sameTest] at inOrder
  rw [← List.head?_filter, ← List.head?_filter, Except.ok.inj inOrder]

end Stored

end Screencast
