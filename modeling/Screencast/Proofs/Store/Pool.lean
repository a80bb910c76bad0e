import Screencast.Store.Pool

/-!
# Statements on tables

What a statement does depends on the tables alone, and it changes no other table than its own. It
leaves the connections alone.
-/

namespace Screencast

namespace Statement

/-- Whether a statement writes to a table. -/
def writesTo (table : String) : Statement → Bool
  | select .. => false
  | insert other _ => other = table
  | update other _ _ => other = table

/-- A statement on another table does not write to a table. -/
theorem writesTo_of_table_ne
    {statement : Statement}
    {table : String}
    (isOther : statement.table ≠ table) :
    statement.writesTo table = false := by
  cases statement with
  | select => rfl
  | insert | update => exact decide_eq_false isOther

end Statement

namespace Pool

theorem rows_congr
    {pool other : Pool}
    (same : pool.tables = other.tables)
    (table : String) :
    pool.rows table = other.rows table := by
  simp [rows, same]

/-- Statements on the same tables have the same rows and lead to the same tables. -/
theorem apply_congr
    {pool other : Pool}
    (same : pool.tables = other.tables)
    (statement : Statement) :
    (pool.apply statement).1 = (other.apply statement).1 ∧
      (pool.apply statement).2.tables = (other.apply statement).2.tables := by
  cases statement with
  | select table filter order limit => simp [apply, withTable, setRows, rows_congr same, same]
  | insert table row => simp [apply, seed, setRows, rows_congr same, same]
  | update table id changes => simp [apply, setRows, rows_congr same, same]

/-- A selection leaves the rows of all tables alone. -/
theorem rows_apply_of_isSelect
    {statement : Statement}
    (isSelect : statement.isSelect = true)
    (pool : Pool)
    (table : String) :
    (pool.apply statement).2.rows table = pool.rows table := by
  cases statement with
  | select => exact pool.rows_withTable _ table
  | insert => cases isSelect
  | update => cases isSelect

@[simp] theorem faults_apply (pool : Pool) (statement : Statement) :
    (pool.apply statement).2.faults = pool.faults := by
  cases statement <;> rfl

@[simp] theorem timeoutMillis_apply (pool : Pool) (statement : Statement) :
    (pool.apply statement).2.timeoutMillis = pool.timeoutMillis := by
  cases statement <;> rfl

/-- A statement leaves the tables alone that it does not write to. -/
theorem rows_apply_of_not_writesTo
    {table : String}
    {statement : Statement}
    (spared : statement.writesTo table = false)
    (pool : Pool) :
    (pool.apply statement).2.rows table = pool.rows table := by
  cases statement with
  | select => exact pool.rows_withTable _ table
  | insert other row =>
      have isOther : other ≠ table := of_decide_eq_false spared
      simp [apply, seed, isOther]
  | update other id changes =>
      have isOther : other ≠ table := of_decide_eq_false spared
      simp [apply, isOther]

/-- What a statement makes of a table depends on the table alone. -/
theorem rows_apply_congr
    {pool other : Pool}
    {table : String}
    (same : pool.rows table = other.rows table)
    (statement : Statement) :
    (pool.apply statement).2.rows table = (other.apply statement).2.rows table := by
  cases statement with
  | select => simpa [apply] using same
  | insert written row =>
      simp only [apply, seed, rows_setRows]
      split
      next isWritten => rw [isWritten, same]
      next => exact same
  | update written id changes =>
      simp only [apply, rows_setRows]
      split
      next isWritten => rw [isWritten, same]
      next => exact same

/-! ## Selecting -/

/-- Inserting a row adds it. -/
theorem perm_insertLast (order : Order) (row : Row) (sorted : List Row) :
    (insertLast order row sorted).Perm (row :: sorted) := by
  induction sorted with
  | nil => exact List.Perm.refl _
  | cons last rest inductionHypothesis =>
      unfold insertLast
      split
      · exact (inductionHypothesis.cons last).trans (List.Perm.swap row last rest)
      · exact List.Perm.refl _

/-- A row is put between others that stay. -/
theorem mem_insertLast_iff
    {order : Order}
    {row other : Row}
    {sorted : List Row} :
    other ∈ insertLast order row sorted ↔ other = row ∨ other ∈ sorted := by
  rw [(perm_insertLast order row sorted).mem_iff, List.mem_cons]

/-- Sorting keeps the rows, each as often as it is there. -/
theorem perm_sortRows (order : Order) (rows : List Row) : (sortRows order rows).Perm rows := by
  have inserted (sorted : List Row) :
      (rows.foldl (fun sorted row => insertLast order row sorted) sorted).Perm
        (rows ++ sorted) := by
    induction rows generalizing sorted with
    | nil => exact List.Perm.refl _
    | cons first rest inductionHypothesis =>
        refine (inductionHypothesis _).trans ?_
        exact ((perm_insertLast order first sorted).append_left rest).trans List.perm_middle
  have all := inserted []
  rw [List.append_nil] at all
  exact (List.reverse_perm _).trans all

/-- Sorted rows are the rows of the table. -/
theorem mem_sortRows_iff
    {order : Order}
    {row : Row}
    {rows : List Row} :
    row ∈ sortRows order rows ↔ row ∈ rows :=
  (perm_sortRows order rows).mem_iff

/-- Selected rows are rows of the table. -/
theorem mem_of_mem_selectRows
    {filter : List (String × Json)}
    {order : Option Order}
    {limit : Option Nat}
    {rows : List Row}
    {row : Row}
    (selected : row ∈ selectRows filter order limit rows) :
    row ∈ rows := by
  have ordered : row ∈ selectRows filter order none rows := by
    cases limit with
    | none => exact selected
    | some limit => exact List.mem_of_mem_take selected
  cases order with
  | none => exact (List.mem_filter.1 ordered).1
  | some order => exact (List.mem_filter.1 (mem_sortRows_iff.1 ordered)).1

/-! ## Asking -/

variable {result : Type}

/-- What a query yields on the tables. -/
def ask (pool : Pool) (issued : Query result) : Except QueryError result :=
  issued.resolve (Except.ok (pool.apply issued.statement).1)

/-- The rows of a statement depend on its table alone. -/
theorem fst_apply_congr
    {pool other : Pool}
    {statement : Statement}
    (same : pool.rows statement.table = other.rows statement.table) :
    (pool.apply statement).1 = (other.apply statement).1 := by
  cases statement with
  | select table filter order limit =>
      have sameRows : pool.rows table = other.rows table := same
      simp [apply, sameRows]
  | insert table row => rfl
  | update table id changes =>
      have sameRows : pool.rows table = other.rows table := same
      simp [apply, sameRows]

theorem ask_congr
    {pool other : Pool}
    {issued : Query result}
    (same : pool.rows issued.statement.table = other.rows issued.statement.table) :
    pool.ask issued = other.ask issued :=
  congrArg (fun rows => issued.resolve (Except.ok rows)) (fst_apply_congr same)

end Pool

/-! ## The accounts of a pool

The accounts of a pool say how many of its connections are in use, and how often one was handed out
and returned. Statements, faults and requests that are not granted leave them alone.
-/

namespace Pool

/-- What a pool knows of its connections. -/
structure Accounts where
  capacity : Nat
  held : Nat
  acquired : Nat
  released : Nat
  deriving DecidableEq, Repr

namespace Accounts

/-- The accounts after a connection was handed out. -/
def grant (accounts : Accounts) : Accounts :=
  { accounts with held := accounts.held + 1, acquired := accounts.acquired + 1 }

/-- The accounts after a connection was returned. -/
def release (accounts : Accounts) : Accounts :=
  { accounts with held := accounts.held - 1, released := accounts.released + 1 }

end Accounts

/-- The accounts of a pool. -/
def accounts (pool : Pool) : Accounts where
  capacity := pool.capacity
  held := pool.held
  acquired := pool.acquired
  released := pool.released

@[simp] theorem accounts_capacity (pool : Pool) : pool.accounts.capacity = pool.capacity := rfl

@[simp] theorem accounts_held (pool : Pool) : pool.accounts.held = pool.held := rfl

@[simp] theorem accounts_acquired (pool : Pool) : pool.accounts.acquired = pool.acquired := rfl

@[simp] theorem accounts_released (pool : Pool) : pool.accounts.released = pool.released := rfl

@[simp] theorem accounts_grant (pool : Pool) : pool.grant.accounts = pool.accounts.grant := rfl

@[simp] theorem accounts_release (pool : Pool) :
    pool.release.accounts = pool.accounts.release := rfl

@[simp] theorem accounts_inject (pool : Pool) (fault : Fault) :
    (pool.inject fault).accounts = pool.accounts := rfl

@[simp] theorem accounts_setRows (pool : Pool) (table : String) (rows : List Row) :
    (pool.setRows table rows).accounts = pool.accounts := rfl

/-- A fault that is taken from the queue leaves the accounts alone. -/
theorem accounts_of_takeFault
    {pool after : Pool}
    {fault : Fault}
    (taken : pool.takeFault fault = some after) :
    after.accounts = pool.accounts := by
  unfold takeFault at taken
  split at taken
  · obtain rfl := Option.some.inj taken
    rfl
  · cases taken

@[simp] theorem accounts_apply (pool : Pool) (statement : Statement) :
    (pool.apply statement).2.accounts = pool.accounts := by
  cases statement <;> rfl

@[simp] theorem accounts_execute (pool : Pool) (statement : Statement) :
    (pool.execute statement).2.accounts = pool.accounts := by
  unfold execute
  split
  next after taken => exact accounts_of_takeFault taken
  next => exact accounts_apply pool statement

/-- A connection is handed out if one is available and no fault is queued; otherwise asking for one
leaves the accounts alone. -/
theorem request_cases (pool : Pool) :
    pool.request = (Acquisition.granted, pool.grant) ∧ pool.held < pool.capacity ∨
      pool.request.1 ≠ Acquisition.granted ∧ pool.request.2.accounts = pool.accounts := by
  unfold request
  split
  next after taken => exact Or.inr ⟨by simp, accounts_of_takeFault taken⟩
  next =>
    split
    next available => exact Or.inl ⟨rfl, by simpa [isAvailable] using available⟩
    next => exact Or.inr ⟨by simp, rfl⟩

end Pool

end Screencast
