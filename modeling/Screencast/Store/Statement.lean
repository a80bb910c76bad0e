import Screencast.Store.Row

/-!
# Statements

A statement selects, inserts or updates rows of one table. Its text has numbered placeholders for
the values that it binds, and its parameters are these values in the order of their numbers.
-/

namespace Screencast

/-- The order in which selected rows come. -/
structure Order where
  column : String
  descending : Bool

/-- A statement on one table. -/
inductive Statement
  | select (table : String) (filter : List (String × Json)) (order : Option Order)
      (limit : Option Nat)
  | insert (table : String) (row : Row)
  | update (table : String) (id : Uuid) (row : Row)

namespace Statement

/-- The table of a statement. -/
def table : Statement → String
  | select table _ _ _ => table
  | insert table _ => table
  | update table _ _ => table

/-- Whether a statement selects. -/
def isSelect : Statement → Bool
  | select .. => true
  | _ => false

/-- Whether a statement inserts. -/
def isInsert : Statement → Bool
  | insert .. => true
  | _ => false

/-- Whether a statement updates. -/
def isUpdate : Statement → Bool
  | update .. => true
  | _ => false

/-- The values that a statement binds, in the order of its placeholders. -/
def params : Statement → List Json
  | select _ filter _ _ => filter.map (·.2)
  | insert _ row => row.values
  | update _ id row => row.values ++ [Row.ofUuid id]

/-- The value that a statement assigns to a column. -/
def assigned? (column : String) : Statement → Option Json
  | select .. => none
  | insert _ row => row.find? column
  | update _ _ row => row.find? column

/-- The placeholder of a number. -/
def placeholder (number : Nat) : String := "$" ++ toString number

/-- The conditions of a selection, numbered from the given number on. -/
def conditions (number : Nat) : List (String × Json) → String
  | [] => ""
  | (column, _) :: rest =>
    (if number = 1 then " WHERE " else " AND ") ++ column ++ " = " ++ placeholder number ++
      conditions (number + 1) rest

/-- The assignments of an update, numbered from the given number on. -/
def assignments (number : Nat) : List String → List String
  | [] => []
  | column :: rest => (column ++ " = " ++ placeholder number) :: assignments (number + 1) rest

/-- The direction of an order. -/
def direction (order : Order) : String := if order.descending then "DESC" else "ASC"

/-- The text of a statement. -/
def text : Statement → String
  | select table filter order limit =>
    "SELECT * FROM " ++ table ++ conditions 1 filter ++
      (match order with
        | some order => " ORDER BY " ++ order.column ++ " " ++ direction order
        | none => "") ++
      (match limit with
        | some limit => " LIMIT " ++ toString limit
        | none => "")
  | insert table row =>
    "INSERT INTO " ++ table ++ " (" ++ ",".intercalate row.keys ++ ") VALUES (" ++
      ",".intercalate ((List.range row.length).map fun index => placeholder (index + 1)) ++ ")"
  | update table _ row =>
    "UPDATE " ++ table ++ " SET " ++ ", ".intercalate (assignments 1 row.keys) ++
      " WHERE id = " ++ placeholder (row.length + 1)

end Statement

end Screencast
