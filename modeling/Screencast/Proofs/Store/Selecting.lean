import Screencast.Proofs.Store.Comparing

/-!
# Sorted selections

A selection returns the rows that meet its conditions in the stable order of a column, and no more
of them than its limit. Insertion is compared with the merge sort of the library: both leave the
rows of one place in the order of the table, and a list is determined by its rows, their order and
the order of those in one place.
-/

namespace Screencast

/-! ## Stable orders -/

section Stable

variable {item : Type} {mayPrecede : item → item → Bool} {items sorted other : List item}

/-- Whether two items may stand in either order. -/
def ties (mayPrecede : item → item → Bool) (left right : item) : Bool :=
  mayPrecede left right && mayPrecede right left

/-- A relation orders items. -/
structure Orders (mayPrecede : item → item → Bool) (items : List item) : Prop where
  total : ∀ left right, mayPrecede left right = true ∨ mayPrecede right left = true
  trans : ∀ first ∈ items, ∀ second ∈ items, ∀ third ∈ items, mayPrecede first second = true →
    mayPrecede second third = true → mayPrecede first third = true

/-- A list has the items of another one in order, those that tie as they stand in it. -/
structure IsStableSort (mayPrecede : item → item → Bool) (items sorted : List item) : Prop where
  permuted : sorted.Perm items
  ordered : sorted.Pairwise fun left right => mayPrecede left right = true
  keepsTies : ∀ one ∈ items,
    sorted.filter (ties mayPrecede one) = items.filter (ties mayPrecede one)

/-- There is one way to put items in order if those that tie are in a given order. -/
theorem eq_of_perm_of_ties
    {left right : List item}
    (tiesItself : ∀ one, mayPrecede one one = true)
    (permuted : left.Perm right)
    (leftOrdered : left.Pairwise fun first second => mayPrecede first second = true)
    (rightOrdered : right.Pairwise fun first second => mayPrecede first second = true)
    (sameTies : ∀ one ∈ left,
      left.filter (ties mayPrecede one) = right.filter (ties mayPrecede one)) :
    left = right := by
  induction left generalizing right with
  | nil => exact permuted.nil_eq
  | cons first lefts inductionHypothesis =>
      cases right with
      | nil => exact permuted.eq_nil
      | cons second rights =>
          have precedesFirst {one : item} {rest : List item}
              (isOrdered : (one :: rest).Pairwise fun left right => mayPrecede left right = true)
              {later : item} (isThere : later ∈ one :: rest) : mayPrecede one later = true := by
            rcases List.mem_cons.1 isThere with rfl | isLater
            · exact tiesItself later
            · exact List.rel_of_pairwise_cons isOrdered isLater
          -- The first item of each list ties with that of the other one, so they are the same.
          have firstTies : ties mayPrecede first second = true := Bool.and_eq_true_iff.2
            ⟨precedesFirst leftOrdered (permuted.mem_iff.2 List.mem_cons_self),
              precedesFirst rightOrdered (permuted.mem_iff.1 List.mem_cons_self)⟩
          have firstTiesItself : ties mayPrecede first first = true :=
            Bool.and_eq_true_iff.2 ⟨tiesItself first, tiesItself first⟩
          have sameFirst := sameTies first List.mem_cons_self
          rw [List.filter_cons_of_pos firstTiesItself,
            List.filter_cons_of_pos firstTies] at sameFirst
          obtain ⟨rfl, -⟩ := List.cons.inj sameFirst
          congr 1
          refine inductionHypothesis permuted.cons_inv leftOrdered.of_cons rightOrdered.of_cons
            fun one isThere => ?_
          have same := sameTies one (List.mem_cons_of_mem first isThere)
          rw [List.filter_cons, List.filter_cons] at same
          split at same
          · exact (List.cons.inj same).2
          · exact same

/-- There is one stable order of items. -/
theorem IsStableSort.eq
    (orders : Orders mayPrecede items)
    (isSorted : IsStableSort mayPrecede items sorted)
    (isOther : IsStableSort mayPrecede items other) :
    sorted = other := by
  refine eq_of_perm_of_ties (fun one => (orders.total one one).elim id id)
    (isSorted.permuted.trans isOther.permuted.symm) isSorted.ordered isOther.ordered
    fun one isThere => ?_
  have among := isSorted.permuted.mem_iff.1 isThere
  rw [isSorted.keepsTies one among, isOther.keepsTies one among]

/-- The merge sort is stable on items that are ordered. -/
theorem isStableSort_mergeSort
    (orders : Orders mayPrecede items) :
    IsStableSort mayPrecede items (items.mergeSort mayPrecede) := by
  -- The relation orders the items, but not all of their type, so the items alone are sorted.
  let members : List { one : item // one ∈ items } := items.attach
  let precedes (left right : { one : item // one ∈ items }) : Bool :=
    mayPrecede left.val right.val
  have trans (first second third : { one : item // one ∈ items })
      (before : precedes first second = true) (after : precedes second third = true) :
      precedes first third = true :=
    orders.trans first.val first.property second.val second.property third.val third.property
      before after
  have total (left right : { one : item // one ∈ items }) :
      (precedes left right || precedes right left) = true :=
    Bool.or_eq_true_iff.2 (orders.total left.val right.val)
  have sortedIs : (members.mergeSort precedes).map Subtype.val = items.mergeSort mayPrecede := by
    rw [List.map_mergeSort (s := mayPrecede) (fun _ _ _ _ => rfl), List.attach_map_subtype_val]
  have permuted : (items.mergeSort mayPrecede).Perm items := List.mergeSort_perm items mayPrecede
  refine ⟨permuted, ?_, fun one isThere => ?_⟩
  · rw [← sortedIs, List.pairwise_map]
    exact List.pairwise_mergeSort trans total members
  · let holds (other : { one : item // one ∈ items }) : Bool := ties mayPrecede one other.val
    have isSublist : (members.filter holds).Sublist (members.mergeSort precedes) := by
      refine List.sublist_mergeSort trans total ?_ List.filter_sublist
      refine List.pairwise_of_forall_mem_list fun left isLeft right isRight => ?_
      have leftTies := Bool.and_eq_true_iff.1 (List.mem_filter.1 isLeft).2
      have rightTies := Bool.and_eq_true_iff.1 (List.mem_filter.1 isRight).2
      exact orders.trans left.val left.property one isThere right.val right.property leftTies.2
        rightTies.1
    have isKept := (isSublist.map Subtype.val).filter (ties mayPrecede one)
    have keptIs : (members.filter holds).map Subtype.val = items.filter (ties mayPrecede one) := by
      rw [show holds = ties mayPrecede one ∘ Subtype.val from rfl, ← List.filter_map,
        List.attach_map_subtype_val]
    rw [keptIs, sortedIs, List.filter_filter] at isKept
    simp only [Bool.and_self] at isKept
    exact (isKept.eq_of_length (permuted.filter _).length_eq.symm).symm

/-- Two items in the order of a list that tie keep their order when it is sorted, and have it from
there. -/
theorem IsStableSort.sublist_iff
    (orders : Orders mayPrecede items)
    (isSorted : IsStableSort mayPrecede items sorted)
    {left right : item}
    (isLeft : left ∈ items)
    (isTie : ties mayPrecede left right = true) :
    [left, right].Sublist sorted ↔ [left, right].Sublist items := by
  have tiesItself : ties mayPrecede left left = true :=
    Bool.and_eq_true_iff.2 ((orders.total left left).elim (fun holds => ⟨holds, holds⟩)
      fun holds => ⟨holds, holds⟩)
  have among {entries : List item} : [left, right].Sublist entries ↔
      [left, right].Sublist (entries.filter (ties mayPrecede left)) := by
    refine ⟨fun isThere => ?_, fun isThere => isThere.trans List.filter_sublist⟩
    have kept := isThere.filter (ties mayPrecede left)
    rwa [List.filter_cons_of_pos tiesItself, List.filter_cons_of_pos isTie, List.filter_nil] at kept
  rw [among, isSorted.keepsTies left isLeft, ← among]

/-- A list is sorted in the same way by a coarse and by a fine relation exactly if the items that
only the fine one tells apart stand in the list as the fine one has them. -/
theorem IsStableSort.eq_iff_pairwise
    {fine : item → item → Bool}
    (orders : Orders mayPrecede items)
    (fineOrders : Orders fine items)
    (isCoarser : ∀ left right, fine left right = true → mayPrecede left right = true)
    (isSorted : IsStableSort mayPrecede items sorted)
    (isOther : IsStableSort fine items other) :
    sorted = other ↔ items.Pairwise fun left right =>
      ties mayPrecede left right = true → fine left right = true := by
  constructor
  · rintro rfl
    refine List.pairwise_of_forall_sublist fun {left right} isThere isTie => ?_
    have isLeft : left ∈ items := isThere.subset List.mem_cons_self
    have isKept := (isSorted.sublist_iff orders isLeft isTie).2 isThere
    exact List.pairwise_iff_forall_sublist.1 isOther.ordered isKept
  · intro inOrder
    refine IsStableSort.eq fineOrders ⟨isSorted.permuted, ?_, fun one isThere => ?_⟩ isOther
    · refine List.pairwise_of_forall_sublist fun {left right} isThere => ?_
      have isLeft : left ∈ items :=
        isSorted.permuted.mem_iff.1 (isThere.subset List.mem_cons_self)
      have before := List.pairwise_iff_forall_sublist.1 isSorted.ordered isThere
      cases after : mayPrecede right left with
      | true =>
          have isTie : ties mayPrecede left right = true := Bool.and_eq_true_iff.2 ⟨before, after⟩
          exact List.pairwise_iff_forall_sublist.1 inOrder
            ((isSorted.sublist_iff orders isLeft isTie).1 isThere) isTie
      | false =>
          refine (fineOrders.total left right).resolve_right fun isBefore => ?_
          rw [isCoarser right left isBefore] at after
          exact nomatch after
    · -- What ties for the fine relation ties for the coarse one.
      have finer (entries : List item) : entries.filter (ties fine one) =
          (entries.filter (ties mayPrecede one)).filter (ties fine one) := by
        rw [List.filter_filter]
        refine List.filter_congr fun entry _ => ?_
        rw [Bool.eq_iff_iff, Bool.and_eq_true_iff]
        refine ⟨fun isTie => ⟨isTie, ?_⟩, And.left⟩
        have both := Bool.and_eq_true_iff.1 isTie
        exact Bool.and_eq_true_iff.2 ⟨isCoarser _ _ both.1, isCoarser _ _ both.2⟩
      rw [finer, finer items, isSorted.keepsTies one isThere]

end Stable

namespace Pool

/-! ## The order of rows -/

variable {measure : Number → Int} {order : Order} {rows : List Row}

/-- Whether a row may stand before another one, when numbers are in the order of a measure. -/
def mayPrecede (measure : Number → Int) (order : Order) (left right : Row) : Bool :=
  if order.descending then !comesAfter measure (right.find? order.column) (left.find? order.column)
  else !comesAfter measure (left.find? order.column) (right.find? order.column)

/-- All values of a column are null or of one kind. -/
def IsOneKind (column : String) (rows : List Row) : Prop :=
  ∃ kind : Kind, ∀ row ∈ rows, kindOf (row.find? column) = Kind.null ∨
    kindOf (row.find? column) = kind

theorem compareRows_swap (order : Order) (left right : Row) :
    compareRows order right left = (compareRows order left right).swap := by
  unfold compareRows
  rw [compareValues_swap (left.find? order.column)]
  split <;> rfl

/-- A row may stand before another one if the comparison does not find it greater. -/
theorem mayPrecede_nearest_iff {left right : Row} :
    mayPrecede nearest order left right = true ↔ compareRows order left right ≠ .gt := by
  unfold mayPrecede compareRows
  split
  next =>
    rw [← compareValues_swap, ne_eq, compareValues_eq_gt_iff, Bool.not_eq_true', Bool.not_eq_true]
  next => rw [ne_eq, compareValues_eq_gt_iff, Bool.not_eq_true', Bool.not_eq_true]

/-- What does not come after something that does not come after a third value does not come after
that, if all are of one kind. -/
theorem comesAfter_trans
    {kind : Kind}
    {first second third : Option Json}
    (firstKind : kindOf first = Kind.null ∨ kindOf first = kind)
    (secondKind : kindOf second = Kind.null ∨ kindOf second = kind)
    (before : comesAfter measure first second = false)
    (after : comesAfter measure second third = false) :
    comesAfter measure first third = false := by
  rcases firstKind with isNull | isKind
  · exact comesAfter_of_null_left isNull
  · by_contra isAfter
    have alike : kindOf second = Kind.null ∨ kindOf third = Kind.null ∨
        kindOf second = kindOf first :=
      secondKind.imp_right fun same => Or.inr (same.trans isKind.symm)
    have between := comesAfter_or_comesAfter (Bool.not_eq_false _ ▸ isAfter) alike
    rw [before, after] at between
    exact between.elim nofun nofun

/-- Rows with values of one kind are ordered. -/
theorem orders_mayPrecede
    (oneKind : IsOneKind order.column rows) :
    Orders (mayPrecede measure order) rows := by
  obtain ⟨kind, kinds⟩ := oneKind
  have oneWay (left right : Option Json) :
      comesAfter measure left right = false ∨ comesAfter measure right left = false :=
    (Bool.eq_false_or_eq_true _).symm.imp_right comesAfter_asymm
  unfold mayPrecede
  constructor
  · intro left right
    have oneIsFree := oneWay (left.find? order.column) (right.find? order.column)
    split
    · simpa only [Bool.not_eq_true'] using oneIsFree.symm
    · simpa only [Bool.not_eq_true'] using oneIsFree
  · intro first isFirst second isSecond third isThird
    split
    · simp only [Bool.not_eq_true']
      exact fun before after => comesAfter_trans (kinds third isThird) (kinds second isSecond) after
        before
    · simp only [Bool.not_eq_true']
      exact comesAfter_trans (kinds first isFirst) (kinds second isSecond)

/-! ## Insertion -/

/-- A row is inserted behind those that may stand before it. -/
theorem pairwise_insertLast
    {row : Row}
    {sorted : List Row}
    (orders : Orders (mayPrecede nearest order) rows)
    (isThere : row ∈ rows)
    (areThere : ∀ other ∈ sorted, other ∈ rows)
    (isSorted : sorted.Pairwise fun later earlier =>
      mayPrecede nearest order earlier later = true) :
    (insertLast order row sorted).Pairwise fun later earlier =>
      mayPrecede nearest order earlier later = true := by
  induction sorted with
  | nil => exact List.pairwise_singleton _ _
  | cons last rest inductionHypothesis =>
      obtain ⟨lastIsThere, restAreThere⟩ := List.forall_mem_cons.1 areThere
      obtain ⟨beforeLast, restIsSorted⟩ := List.pairwise_cons.1 isSorted
      unfold insertLast
      split
      next isBefore =>
        refine List.pairwise_cons.2
          ⟨fun other among => ?_, inductionHypothesis restAreThere restIsSorted⟩
        rcases mem_insertLast_iff.1 among with rfl | isOld
        · rw [mayPrecede_nearest_iff, isBefore]
          decide
        · exact beforeLast other isOld
      next isNotBefore =>
        have lastFirst : mayPrecede nearest order last row = true := by
          rw [mayPrecede_nearest_iff, compareRows_swap order row last]
          cases compared : compareRows order row last with
          | lt => exact absurd compared isNotBefore
          | eq => decide
          | gt => decide
        refine List.pairwise_cons.2
          ⟨List.forall_mem_cons.2 ⟨lastFirst, fun other isOld => ?_⟩, isSorted⟩
        exact orders.trans other (restAreThere other isOld) last lastIsThere row isThere
          (beforeLast other isOld) lastFirst

/-- Sorting puts rows in order. -/
theorem pairwise_sortRows
    (orders : Orders (mayPrecede nearest order) rows) :
    (sortRows order rows).Pairwise fun left right =>
      mayPrecede nearest order left right = true := by
  have inserted (more sorted : List Row) (moreAreThere : ∀ row ∈ more, row ∈ rows)
      (areThere : ∀ row ∈ sorted, row ∈ rows)
      (isSorted : sorted.Pairwise fun later earlier =>
        mayPrecede nearest order earlier later = true) :
      (more.foldl (fun sorted row => insertLast order row sorted) sorted).Pairwise
        fun later earlier => mayPrecede nearest order earlier later = true := by
    induction more generalizing sorted with
    | nil => exact isSorted
    | cons first rest inductionHypothesis =>
        obtain ⟨isThere, restAreThere⟩ := List.forall_mem_cons.1 moreAreThere
        refine inductionHypothesis _ restAreThere (fun row among => ?_)
          (pairwise_insertLast orders isThere areThere isSorted)
        rcases mem_insertLast_iff.1 among with rfl | isOld
        · exact isThere
        · exact areThere row isOld
  exact List.pairwise_reverse.2
    (inserted rows [] (fun _ isThere => isThere) nofun List.Pairwise.nil)

/-- Sorting is stable, if all values of the column are null or of one kind. -/
theorem isStableSort_sortRows
    (oneKind : IsOneKind order.column rows) :
    IsStableSort (mayPrecede nearest order) rows (sortRows order rows) := by
  have orders : Orders (mayPrecede nearest order) rows := orders_mayPrecede oneKind
  refine ⟨perm_sortRows order rows, pairwise_sortRows orders, fun one isThere => ?_⟩
  refine filter_sortRows fun left isLeft right isRight leftTies rightTies isLess => ?_
  have leftBoth := Bool.and_eq_true_iff.1 leftTies
  have rightBoth := Bool.and_eq_true_iff.1 rightTies
  have notGreater := mayPrecede_nearest_iff.1
    (orders.trans right isRight one isThere left isLeft rightBoth.2 leftBoth.1)
  rw [compareRows_swap order left right, isLess] at notGreater
  exact notGreater rfl

/-! ## Selections -/

/-- The first of some rows, up to a limit. -/
def upTo (limit : Option Nat) (rows : List Row) : List Row :=
  match limit with
  | some limit => rows.take limit
  | none => rows

/-- Rows in a stable order, when numbers are in the order of a measure. -/
def arranged (measure : Number → Int) (order : Option Order) (rows : List Row) : List Row :=
  match order with
  | some order => rows.mergeSort (mayPrecede measure order)
  | none => rows

/-- The rows of a table that meet all conditions. -/
def matching (pool : Pool) (table : String) (filter : List (String × Json)) : List Row :=
  (pool.rows table).filter (meets filter)

/-- A row meets all conditions if it has a value equal to theirs in each of their columns. -/
theorem meets_iff (filter : List (String × Json)) (row : Row) :
    meets filter row = true ↔ ∀ column value, (column, value) ∈ filter →
      ∃ found, row.find? column = some found ∧ found.same value = true := by
  rw [meets, List.all_eq_true, Prod.forall]
  refine forall₃_congr fun column value _ => ?_
  dsimp only
  cases row.find? column with
  | none => simp
  | some found => simp

/-- What comes after another value by the nearest doubles comes after it. -/
theorem comesAfter_value_of_comesAfter_nearest
    {left right : Option Json}
    (isAfter : comesAfter nearest left right = true) :
    comesAfter Number.value left right = true := by
  rcases left with _ | _ | left | left | left | _ | _ <;>
    rcases right with _ | _ | right | right | right | _ | _ <;>
    try exact isAfter
  rw [comesAfter, decide_eq_true_eq] at isAfter ⊢
  exact Int.not_le.1 fun inOrder => Int.not_le.2 isAfter (Number.value_toBinary64_le inOrder)

/-- A row that may stand before another one may do so by the nearest doubles. -/
theorem mayPrecede_nearest_of_mayPrecede_value
    {left right : Row}
    (before : mayPrecede Number.value order left right = true) :
    mayPrecede nearest order left right = true := by
  have keep {first second : Option Json} (isFree : comesAfter Number.value first second = false) :
      comesAfter nearest first second = false := by
    rw [← Bool.not_eq_true] at isFree ⊢
    exact mt comesAfter_value_of_comesAfter_nearest isFree
  unfold mayPrecede at before ⊢
  split at before
  next isDescending =>
    rw [if_pos isDescending]
    simpa using keep (by simpa using before)
  next isAscending =>
    rw [if_neg isAscending]
    simpa using keep (by simpa using before)

/-- A selection with an order, on values of one kind, returns the rows that meet its conditions in
the stable order of the column, up to its limit, and leaves the rows of all tables alone. Numbers
are in the order of the nearest doubles. That is the order of the numbers exactly if those with the
same double stand in the table as the order has them. -/
theorem apply_select_eq
    (pool : Pool)
    (table : String)
    (filter : List (String × Json))
    (order : Option Order)
    (limit : Option Nat)
    (oneKind : ∀ chosen ∈ order, IsOneKind chosen.column (pool.matching table filter)) :
    (pool.apply (Statement.select table filter order limit)).1 =
        upTo limit (arranged nearest order (pool.matching table filter)) ∧
      (∀ row, row ∈ pool.matching table filter ↔ row ∈ pool.rows table ∧
        ∀ column value, (column, value) ∈ filter →
          ∃ found, row.find? column = some found ∧ found.same value = true) ∧
      (arranged nearest order (pool.matching table filter)).Perm (pool.matching table filter) ∧
      (∀ other, (pool.apply (Statement.select table filter order limit)).2.rows other =
        pool.rows other) ∧
      (arranged nearest order (pool.matching table filter) =
          arranged Number.value order (pool.matching table filter) ↔
        ∀ chosen ∈ order, (pool.matching table filter).Pairwise fun left right =>
          ties (mayPrecede nearest chosen) left right = true →
            mayPrecede Number.value chosen left right = true) := by
  have isMember (row : Row) : row ∈ pool.matching table filter ↔ row ∈ pool.rows table ∧
      ∀ column value, (column, value) ∈ filter →
        ∃ found, row.find? column = some found ∧ found.same value = true := by
    rw [matching, List.mem_filter, meets_iff]
  cases order with
  | none =>
      exact ⟨rfl, isMember, List.Perm.refl _, rows_apply_of_isSelect rfl pool,
        iff_of_true rfl nofun⟩
  | some chosen =>
      have isOneKind : IsOneKind chosen.column (pool.matching table filter) := oneKind chosen rfl
      have orders : Orders (mayPrecede nearest chosen) (pool.matching table filter) :=
        orders_mayPrecede isOneKind
      have exactOrders : Orders (mayPrecede Number.value chosen) (pool.matching table filter) :=
        orders_mayPrecede isOneKind
      have isStable := isStableSort_mergeSort orders
      have inserted := isStableSort_sortRows isOneKind
      refine ⟨?_, isMember, isStable.permuted, rows_apply_of_isSelect rfl pool, ?_⟩
      · rw [arranged, ← inserted.eq orders isStable]
        cases limit <;> rfl
      · rw [arranged, arranged, isStable.eq_iff_pairwise orders exactOrders
          (fun _ _ => mayPrecede_nearest_of_mayPrecede_value) (isStableSort_mergeSort exactOrders)]
        exact ⟨fun inOrder other isChosen => Option.some.inj isChosen ▸ inOrder,
          fun inOrder => inOrder chosen rfl⟩

/-- Two rows with different integers that have the same nearest double, the larger one first. -/
def neighbours : Pool where
  tables := [("things",
    [[("n", Json.integer 9007199254740993)], [("n", Json.integer 9007199254740992)]])]

/-- The larger one of two numbers with the same nearest double stays before the smaller one, though
it comes after it. -/
theorem apply_select_neighbours :
    (neighbours.apply (Statement.select "things" [] (some ⟨"n", false⟩) none)).1 =
        [[("n", Json.integer 9007199254740993)], [("n", Json.integer 9007199254740992)]] ∧
      upTo none (arranged Number.value (some ⟨"n", false⟩) (neighbours.matching "things" [])) =
        [[("n", Json.integer 9007199254740992)], [("n", Json.integer 9007199254740993)]] := by
  have isMatching : neighbours.matching "things" [] =
      [[("n", Json.integer 9007199254740993)], [("n", Json.integer 9007199254740992)]] := rfl
  refine ⟨rfl, ?_⟩
  have isAfter : mayPrecede Number.value ⟨"n", false⟩ [("n", Json.integer 9007199254740993)]
      [("n", Json.integer 9007199254740992)] = false := by
    rw [mayPrecede, if_neg Bool.false_ne_true]
    exact congrArg not (comesAfter_value_integer 9007199254740993 9007199254740992)
  rw [upTo, arranged, isMatching, List.mergeSort]
  simp [isAfter]

/-- Five rows: three of one player with a number, one without, and one of another player. -/
def scores : Pool where
  tables := [("scores",
    [[("n", Json.integer 3), ("who", Json.string "ana")],
      [("n", Json.integer 9), ("who", Json.string "bo")],
      [("n", Json.integer 7), ("who", Json.string "ana")],
      [("who", Json.string "ana")],
      [("n", Json.number (Number.double (Binary64.ofInt 7))), ("who", Json.string "ana")]])]

/-- The best two of the rows of a player are returned, the earlier one of those with the same number
first. -/
theorem apply_select_scores :
    (scores.apply
        (Statement.select "scores" [("who", Json.string "ana")] (some ⟨"n", true⟩) (some 2))).1 =
      upTo (some 2) (arranged nearest (some ⟨"n", true⟩)
        (scores.matching "scores" [("who", Json.string "ana")])) := by
  refine (apply_select_eq scores "scores" [("who", Json.string "ana")] (some ⟨"n", true⟩) (some 2)
    ?_).1
  rintro chosen ⟨rfl⟩
  exact ⟨Kind.number, by decide⟩

end Pool

end Screencast
