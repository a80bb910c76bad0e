import Screencast.Proofs.Store.Commuting

/-!
# Rows that stay where they are filed

A record that is looked up by a text in a column, and is written back with the text in the column,
stays filed under the text. Statements that look up or write what is filed under one text are apart
from those that do so under another one, unless both are about the same row.
-/

namespace Screencast

namespace Pool

/-- What stands in a column of the rows of a table, with their identifiers. -/
def filing (pool : Pool) (table column : String) : List (Option Json × Option Json) :=
  (pool.rows table).map fun row => (row.find? "id", row.find? column)

variable {table column : String} {start pool : Pool} {id : Uuid} {row filed : Row}

/-- As long as all rows stay where they are filed, the row with an identifier is filed as before. -/
theorem find?_column_of_filing_eq
    (keyed : IsKeyed (start.rows table))
    (sameFiling : pool.filing table column = start.filing table column)
    (filedAtStart : filed ∈ start.rows table)
    (hadId : hasId id filed = true)
    (present : row ∈ pool.rows table)
    (has : hasId id row = true) :
    row.find? column = filed.find? column := by
  have isFiled : (row.find? "id", row.find? column) ∈ start.filing table column :=
    sameFiling ▸ List.mem_map_of_mem present
  obtain ⟨other, presentAtStart, same⟩ := List.mem_map.1 isFiled
  obtain ⟨sameId, sameColumn⟩ := Prod.mk.inj same
  have isFiledRow : other = filed := by
    refine keyed.eq_of_find?_id presentAtStart filedAtStart ?_
    rw [sameId, (hasId_iff id row).1 has, (hasId_iff id filed).1 hadId]
  rw [← sameColumn, isFiledRow]

theorem filing_congr
    {other : Pool}
    (same : pool.rows table = other.rows table)
    (column : String) :
    pool.filing table column = other.filing table column := by
  rw [filing, filing, same]

end Pool

namespace Statement

open Pool

/-- A statement looks up what is filed under a text, or writes to the row that was found there and
leaves it filed under the text. -/
inductive Concerns (table column text : String) (rows : List Row) : Statement → Prop
  | looksUp (order : Option Order) (limit : Option Nat) :
      Concerns table column text rows (select table [(column, Json.string text)] order limit)
  | writes {id : Uuid} {row columns : Row}
      (first : rows.find? (meets [(column, Json.string text)]) = some row)
      (has : hasId id row = true)
      (distinct : columns.keys.Nodup)
      (withoutId : "id" ∉ columns.keys)
      (staysFiled : (merge row columns).find? column = some (Json.string text)) :
      Concerns table column text rows (update table id columns)

namespace Concerns

variable {table column text other : String} {holds : Pool → Prop} {start pool : Pool}
  {first second : Statement}

theorem table_eq
    {rows : List Row}
    (concerns : Concerns table column text rows first) :
    first.table = table := by
  cases concerns <;> rfl

/-- A row under whose identifier the statement writes stays filed under the text. -/
theorem find?_merge_of_first
    {id : Uuid}
    {filed row columns : Row}
    (keyed : IsKeyed (start.rows table))
    (sameFiling : pool.filing table column = start.filing table column)
    (isFirst : (start.rows table).find? (meets [(column, Json.string text)]) = some filed)
    (hadId : hasId id filed = true)
    (distinct : columns.keys.Nodup)
    (staysFiled : (merge filed columns).find? column = some (Json.string text))
    (present : row ∈ pool.rows table)
    (has : hasId id row = true) :
    row.find? column = some (Json.string text) ∧
      (merge row columns).find? column = some (Json.string text) := by
  have sameColumn := find?_column_of_filing_eq keyed sameFiling
    (List.mem_of_find?_eq_some isFirst) hadId present has
  rw [find?_merge distinct] at staysFiled ⊢
  rw [sameColumn]
  exact ⟨(meets_string_iff column text filed).1 (List.find?_some isFirst), staysFiled⟩

/-- After the statement all rows are filed as they were at the start. -/
theorem filing_apply
    (concerns : Concerns table column text (start.rows table) first)
    (keyed : IsKeyed (start.rows table))
    (sameFiling : pool.filing table column = start.filing table column) :
    (pool.apply first).2.filing table column = start.filing table column := by
  cases concerns with
  | looksUp order limit =>
      exact (filing_congr (rows_apply_of_isSelect rfl pool table) column).trans sameFiling
  | writes isFirst hadId distinct withoutId staysFiled =>
      refine Eq.trans ?_ sameFiling
      simp only [filing, apply, rows_setRows, if_true]
      refine map_updateFirst fun row present has => ?_
      obtain ⟨isFiled, stays⟩ :=
        find?_merge_of_first keyed sameFiling isFirst hadId distinct staysFiled present has
      have keepsId := KeyMap.find?_eq_none_of_not_mem withoutId
      rw [stays, isFiled, find?_merge distinct, keepsId, Option.none_or]

/-- Looking up under one text and writing under another one are apart. -/
theorem areApart_of_looksUp
    (concerns : Concerns table column other (start.rows table) second)
    (keyed : IsKeyed (start.rows table))
    (filed : ∀ pool, holds pool → pool.filing table column = start.filing table column)
    (differ : ∀ row, (start.rows table).find? (meets [(column, Json.string text)]) = some row →
      (start.rows table).find? (meets [(column, Json.string other)]) ≠ some row)
    (order : Option Order)
    (limit : Option Nat) :
    AreApart holds (select table [(column, Json.string text)] order limit) second := by
  cases concerns with
  | looksUp => exact areApart_of_isSelect rfl rfl
  | writes isFirst hadId distinct _ staysFiled =>
      have isOther : other ≠ text := by
        rintro rfl
        exact differ _ isFirst isFirst
      have isUnmet : ∀ row : Row, row.find? column = some (Json.string other) →
          meets [(column, Json.string text)] row = false := fun row isFiled =>
        Bool.eq_false_iff.2 fun isMet => isOther
          (Json.string.inj (Option.some.inj
            (isFiled.symm.trans ((meets_string_iff column text row).1 isMet))))
      refine areApart_select_update (fun pool held row present has => ?_) order limit
      obtain ⟨isFiled, stays⟩ :=
        find?_merge_of_first keyed (filed pool held) isFirst hadId distinct staysFiled present has
      exact ⟨isUnmet row isFiled, isUnmet _ stays⟩

/-- What is filed in different rows is looked up and written by statements that are apart. -/
theorem areApart
    (concerns : Concerns table column text (start.rows table) first)
    (concernsToo : Concerns table column other (start.rows table) second)
    (keyed : IsKeyed (start.rows table))
    (filed : ∀ pool, holds pool → pool.filing table column = start.filing table column)
    (differ : ∀ row, (start.rows table).find? (meets [(column, Json.string text)]) = some row →
      (start.rows table).find? (meets [(column, Json.string other)]) ≠ some row) :
    AreApart holds first second := by
  cases concerns with
  | looksUp order limit => exact concernsToo.areApart_of_looksUp keyed filed differ order limit
  | writes isFirst hadId distinct withoutId staysFiled =>
      cases concernsToo with
      | looksUp order limit =>
          have writes : Concerns table column text (start.rows table) (update table _ _) :=
            Concerns.writes isFirst hadId distinct withoutId staysFiled
          exact (writes.areApart_of_looksUp keyed filed
            (fun row isOther isThis => differ row isThis isOther) order limit).symm
      | writes isFirstToo hadIdToo distinctToo withoutIdToo _ =>
          refine areApart_update_update ?_ distinct withoutId distinctToo withoutIdToo
          rintro rfl
          have sameRow := keyed.eq_of_find?_id (List.mem_of_find?_eq_some isFirst)
            (List.mem_of_find?_eq_some isFirstToo)
            (((hasId_iff _ _).1 hadId).trans ((hasId_iff _ _).1 hadIdToo).symm)
          exact differ _ isFirst (sameRow ▸ isFirstToo)

end Concerns

end Statement

end Screencast
