import Screencast.Proofs.Store.Keyed

/-!
# Statements in any order

A statement spares another one that has the same answer after it. Two statements commute if they
leave the same rows in either order, and statements any two of which commute leave the same rows in
any order. Updates of rows with different identifiers are apart in this sense, and so are an update
and a selection that the updated row does not meet.
-/

namespace Screencast

namespace Pool

/-- Run statements one after another. -/
def applyAll (pool : Pool) (statements : List Statement) : Pool :=
  statements.foldl (fun pool statement => (pool.apply statement).2) pool

variable {pool other : Pool}

@[simp] theorem applyAll_nil (pool : Pool) : pool.applyAll [] = pool := rfl

@[simp] theorem applyAll_cons (pool : Pool) (statement : Statement) (rest : List Statement) :
    pool.applyAll (statement :: rest) = (pool.apply statement).2.applyAll rest := rfl

theorem applyAll_append (pool : Pool) (earlier later : List Statement) :
    pool.applyAll (earlier ++ later) = (pool.applyAll earlier).applyAll later :=
  List.foldl_append

/-- What statements make of the rows depends on the rows alone. -/
theorem rows_applyAll_congr
    (same : ∀ table, pool.rows table = other.rows table)
    (statements : List Statement)
    (table : String) :
    (pool.applyAll statements).rows table = (other.applyAll statements).rows table := by
  induction statements generalizing pool other with
  | nil => exact same table
  | cons statement rest inductionHypothesis =>
      exact inductionHypothesis fun table => rows_apply_congr (same table) statement

end Pool

/-! ## Statements that spare each other -/

namespace Statement

open Pool

/-- Where a condition holds, a statement has the same answer before and after another one. -/
def Spares (holds : Pool → Prop) (first second : Statement) : Prop :=
  ∀ pool, holds pool → ((pool.apply first).2.apply second).1 = (pool.apply second).1

/-- Where a condition holds, two statements leave the same rows in either order. -/
def Commutes (holds : Pool → Prop) (first second : Statement) : Prop :=
  ∀ pool, holds pool → ∀ table,
    ((pool.apply first).2.apply second).2.rows table =
      ((pool.apply second).2.apply first).2.rows table

/-- A condition holds still after a statement. -/
def Keeps (holds : Pool → Prop) (statement : Statement) : Prop :=
  ∀ pool, holds pool → holds (pool.apply statement).2

/-- Two statements spare each other and commute. -/
structure AreApart (holds : Pool → Prop) (first second : Statement) : Prop where
  spares : Spares holds first second
  spared : Spares holds second first
  commutes : Commutes holds first second

variable {holds : Pool → Prop} {first second : Statement}

theorem Commutes.symm (commutes : Commutes holds first second) : Commutes holds second first :=
  fun pool held table => (commutes pool held table).symm

theorem AreApart.symm (apart : AreApart holds first second) : AreApart holds second first :=
  ⟨apart.spared, apart.spares, apart.commutes.symm⟩

theorem spares_of_isSelect
    (isSelect : first.isSelect = true)
    (second : Statement) :
    Spares holds first second := by
  intro pool _
  exact fst_apply_congr (rows_apply_of_isSelect isSelect pool _)

/-- A selection commutes with everything. -/
theorem commutes_of_isSelect
    (isSelect : first.isSelect = true)
    (second : Statement) :
    Commutes holds first second := by
  intro pool _ table
  rw [rows_apply_of_isSelect isSelect]
  exact rows_apply_congr (rows_apply_of_isSelect isSelect pool table) second

/-- Statements on different tables are apart. -/
theorem areApart_of_table_ne (differ : first.table ≠ second.table) :
    AreApart holds first second := by
  have firstSpares : first.writesTo second.table = false := writesTo_of_table_ne differ
  have secondSpares : second.writesTo first.table = false := writesTo_of_table_ne differ.symm
  refine ⟨fun pool _ => ?_, fun pool _ => ?_, fun pool _ table => ?_⟩
  · exact fst_apply_congr (rows_apply_of_not_writesTo firstSpares pool)
  · exact fst_apply_congr (rows_apply_of_not_writesTo secondSpares pool)
  · by_cases isFirst : first.table = table
    · subst isFirst
      rw [rows_apply_of_not_writesTo secondSpares]
      exact rows_apply_congr (rows_apply_of_not_writesTo secondSpares pool).symm first
    · rw [rows_apply_of_not_writesTo (writesTo_of_table_ne isFirst)]
      exact rows_apply_congr (rows_apply_of_not_writesTo (writesTo_of_table_ne isFirst) pool) second

theorem areApart_of_isSelect
    (isSelect : first.isSelect = true)
    (isSelectToo : second.isSelect = true) :
    AreApart holds first second :=
  ⟨spares_of_isSelect isSelect second, spares_of_isSelect isSelectToo first,
    commutes_of_isSelect isSelect second⟩

end Statement

/-- Statements any two of which commute leave the same rows in any order. -/
theorem Pool.rows_applyAll_of_perm
    {holds : Pool → Prop}
    {statements others : List Statement}
    (perm : statements.Perm others)
    (keeps : ∀ statement ∈ statements, statement.Keeps holds)
    (commute : ∀ first ∈ statements, ∀ second ∈ statements, first.Commutes holds second)
    {pool : Pool}
    (held : holds pool)
    (table : String) :
    (pool.applyAll statements).rows table = (pool.applyAll others).rows table := by
  induction perm generalizing pool with
  | nil => rfl
  | cons statement _ inductionHypothesis =>
      obtain ⟨keepsFirst, keepsRest⟩ := List.forall_mem_cons.1 keeps
      refine inductionHypothesis keepsRest (fun first isFirst second isSecond => ?_)
        (keepsFirst pool held)
      exact commute first (List.mem_cons_of_mem _ isFirst) second (List.mem_cons_of_mem _ isSecond)
  | swap first second rest =>
      refine rows_applyAll_congr (fun table => ?_) rest table
      exact commute second List.mem_cons_self first
        (List.mem_cons_of_mem _ List.mem_cons_self) pool held table
  | trans perm _ firstHypothesis secondHypothesis =>
      refine (firstHypothesis keeps commute held).trans (secondHypothesis ?_ ?_ held)
      · exact fun statement present => keeps statement (perm.mem_iff.2 present)
      · exact fun first isFirst second isSecond =>
          commute first (perm.mem_iff.2 isFirst) second (perm.mem_iff.2 isSecond)

/-! ## Updates -/

namespace Pool

variable {id other : Uuid} {changes more : Row} {rows : List Row}

theorem updateFirst_of_hasId
    {row : Row}
    (has : hasId id row = true) :
    updateFirst id changes (row :: rows) = (merge row changes :: rows, [merge row changes]) := by
  rw [updateFirst, if_pos has]

theorem updateFirst_of_not_hasId
    {row : Row}
    (hasNot : hasId id row = false) :
    updateFirst id changes (row :: rows) =
      (row :: (updateFirst id changes rows).1, (updateFirst id changes rows).2) := by
  rw [updateFirst, if_neg (Bool.eq_false_iff.1 hasNot)]

/-- Changes without an identifier leave a row with the identifier it has. -/
theorem hasId_merge
    (distinct : changes.keys.Nodup)
    (withoutId : "id" ∉ changes.keys)
    (id : Uuid)
    (row : Row) :
    hasId id (merge row changes) = hasId id row := by
  rw [Bool.eq_iff_iff, hasId_iff, hasId_iff, find?_merge distinct,
    KeyMap.find?_eq_none_of_not_mem withoutId, Option.none_or]

/-- An update that concerns no row that is met, before or after, leaves the rows that are met
alone. -/
theorem filter_updateFirst
    {isMet : Row → Bool}
    (spares : ∀ row ∈ rows, hasId id row = true →
      isMet row = false ∧ isMet (merge row changes) = false) :
    (updateFirst id changes rows).1.filter isMet = rows.filter isMet := by
  induction rows with
  | nil => rfl
  | cons row rest inductionHypothesis =>
      obtain ⟨sparesFirst, sparesRest⟩ := List.forall_mem_cons.1 spares
      cases has : hasId id row with
      | true =>
          obtain ⟨isUnmet, staysUnmet⟩ := sparesFirst has
          simp [updateFirst_of_hasId has, isUnmet, staysUnmet]
      | false =>
          simp only [updateFirst_of_not_hasId has, List.filter_cons, inductionHypothesis sparesRest]

/-- An update that leaves a view of its row alone leaves the views of all rows alone. -/
theorem map_updateFirst
    {view : Type}
    {look : Row → view}
    (spares : ∀ row ∈ rows, hasId id row = true → look (merge row changes) = look row) :
    (updateFirst id changes rows).1.map look = rows.map look := by
  induction rows with
  | nil => rfl
  | cons row rest inductionHypothesis =>
      obtain ⟨sparesFirst, sparesRest⟩ := List.forall_mem_cons.1 spares
      cases has : hasId id row with
      | true => simp only [updateFirst_of_hasId has, List.map_cons, sparesFirst has]
      | false =>
          simp only [updateFirst_of_not_hasId has, List.map_cons, inductionHypothesis sparesRest]

/-- What an update changes is the same after an update of a row with another identifier. -/
theorem snd_updateFirst_updateFirst
    (isOther : id ≠ other)
    (distinct : changes.keys.Nodup)
    (withoutId : "id" ∉ changes.keys) :
    (updateFirst other more (updateFirst id changes rows).1).2 = (updateFirst other more rows).2 := by
  induction rows with
  | nil => rfl
  | cons row rest inductionHypothesis =>
      cases has : hasId id row with
      | true =>
          have hasNot : hasId other row = false := hasId_eq_false has isOther
          have hasNotStill : hasId other (merge row changes) = false :=
            (hasId_merge distinct withoutId other row).trans hasNot
          rw [updateFirst_of_hasId has, updateFirst_of_not_hasId hasNotStill,
            updateFirst_of_not_hasId hasNot]
      | false =>
          rw [updateFirst_of_not_hasId has]
          cases hasOther : hasId other row with
          | true => rw [updateFirst_of_hasId hasOther, updateFirst_of_hasId hasOther]
          | false =>
              rw [updateFirst_of_not_hasId hasOther, updateFirst_of_not_hasId hasOther]
              exact inductionHypothesis

/-- Updates of rows with different identifiers leave the same rows in either order. -/
theorem fst_updateFirst_updateFirst
    (isOther : id ≠ other)
    (distinct : changes.keys.Nodup)
    (withoutId : "id" ∉ changes.keys)
    (distinctToo : more.keys.Nodup)
    (withoutIdToo : "id" ∉ more.keys) :
    (updateFirst other more (updateFirst id changes rows).1).1 =
      (updateFirst id changes (updateFirst other more rows).1).1 := by
  induction rows with
  | nil => rfl
  | cons row rest inductionHypothesis =>
      cases has : hasId id row with
      | true =>
          have hasNot : hasId other row = false := hasId_eq_false has isOther
          have hasNotStill : hasId other (merge row changes) = false :=
            (hasId_merge distinct withoutId other row).trans hasNot
          rw [updateFirst_of_hasId has, updateFirst_of_not_hasId hasNotStill,
            updateFirst_of_not_hasId hasNot, updateFirst_of_hasId has]
      | false =>
          cases hasOther : hasId other row with
          | true =>
              have hasNotStill : hasId id (merge row more) = false :=
                (hasId_merge distinctToo withoutIdToo id row).trans has
              rw [updateFirst_of_not_hasId has, updateFirst_of_hasId hasOther,
                updateFirst_of_hasId hasOther, updateFirst_of_not_hasId hasNotStill]
          | false =>
              rw [updateFirst_of_not_hasId has, updateFirst_of_not_hasId hasOther,
                updateFirst_of_not_hasId hasOther, updateFirst_of_not_hasId has,
                inductionHypothesis]

end Pool

namespace Statement

open Pool

variable {holds : Pool → Prop} {table : String} {id other : Uuid} {changes more : Row}
  {filter : List (String × Json)}

/-- Updates of rows with different identifiers are apart. -/
theorem areApart_update_update
    (isOther : id ≠ other)
    (distinct : changes.keys.Nodup)
    (withoutId : "id" ∉ changes.keys)
    (distinctToo : more.keys.Nodup)
    (withoutIdToo : "id" ∉ more.keys) :
    AreApart holds (update table id changes) (update table other more) := by
  refine ⟨fun pool _ => ?_, fun pool _ => ?_, fun pool _ found => ?_⟩
  · simp only [apply, rows_setRows, if_true]
    exact snd_updateFirst_updateFirst isOther distinct withoutId
  · simp only [apply, rows_setRows, if_true]
    exact snd_updateFirst_updateFirst isOther.symm distinctToo withoutIdToo
  · simp only [apply, rows_setRows, if_true]
    split
    next => exact fst_updateFirst_updateFirst isOther distinct withoutId distinctToo withoutIdToo
    next => rfl

/-- A selection and an update are apart if the row that is updated is never met. -/
theorem areApart_select_update
    (spares : ∀ pool, holds pool → ∀ row ∈ pool.rows table, hasId id row = true →
      meets filter row = false ∧ meets filter (merge row changes) = false)
    (order : Option Order)
    (limit : Option Nat) :
    AreApart holds (select table filter order limit) (update table id changes) := by
  refine ⟨spares_of_isSelect rfl _, fun pool held => ?_, commutes_of_isSelect rfl _⟩
  simp only [apply, rows_setRows, if_true, selectRows, filter_updateFirst (spares pool held)]

end Statement

end Screencast
