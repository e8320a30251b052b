import DataMapper.Condition
import DataMapper.Error

/-!
# Statements

A `Statement` is a SELECT, an INSERT, an UPDATE or a DELETE in which every value
is a marker already.  `Statement.sql` writes it.

* A SELECT without columns selects all columns of its table.
* Where the dialect pages only ordered results, a paged SELECT without an order
  is ordered by a constant.
* An INSERT has at least one column and one value for each.
* An UPDATE has at least one assignment.
-/

namespace DataMapper

/-- A term of an order: a column, and what follows it. -/
structure OrderTerm where
  column : QualifiedColumn
  /-- The direction and the place of NULLs, as text. -/
  suffix : String
  deriving DecidableEq, Repr

structure SelectStatement where
  /-- Whether equal rows are given once. -/
  distinct : Bool
  projection : List QualifiedColumn
  table : Identifier
  condition : Option Condition
  /-- The order of rows. -/
  orderBy : List OrderTerm
  /-- The number of rows at most. -/
  limit : Option Nat
  /-- The number of rows skipped. -/
  offset : Option Nat

structure InsertStatement where
  table : Identifier
  columns : List Identifier
  /-- The values, one for each column. -/
  values : List Marker

/-- What an UPDATE assigns. -/
inductive AssignedValue where
  | marker (m : Marker)
  | null
  deriving DecidableEq, Repr

structure UpdateStatement where
  table : Identifier
  assignments : List (Identifier × AssignedValue)
  condition : Option Condition

structure DeleteStatement where
  table : Identifier
  condition : Option Condition

inductive Statement where
  | select (s : SelectStatement)
  | insert (s : InsertStatement)
  | update (s : UpdateStatement)
  | delete (s : DeleteStatement)

/-! ## Writing -/

/-- The WHERE clause of a condition, if there is one. -/
def whereClause (d : Dialect) : Option Condition → Sql
  | some condition => .text " WHERE " :: condition.sql d
  | none => []

def OrderTerm.text (t : OrderTerm) (d : Dialect) : String := t.column.text d ++ t.suffix

def commaSeparated (texts : List String) : String := String.intercalate ", " texts

namespace SelectStatement

def projectionText (s : SelectStatement) (d : Dialect) : String :=
  if s.projection.isEmpty then d.toSql s.table ++ ".*"
  else commaSeparated (s.projection.map fun column => column.text d)

/-- The order and the page as text. -/
def tailText (s : SelectStatement) (d : Dialect) : String :=
  let page := d.paging.clause? s.limit s.offset
  let order :=
    if !s.orderBy.isEmpty then
      " ORDER BY " ++ commaSeparated (s.orderBy.map fun term => term.text d)
    else if page.isSome && d.paging.requiresOrder then " ORDER BY (SELECT 1)"
    else ""
  match page with
  | some page => order ++ " " ++ page
  | none => order

def sql (s : SelectStatement) (d : Dialect) : Sql :=
  .text ("SELECT " ++ (if s.distinct then "DISTINCT " else "") ++ s.projectionText d ++ " FROM "
    ++ d.toSql s.table) :: whereClause d s.condition ++ [.text (s.tailText d)]

end SelectStatement

def InsertStatement.sql (s : InsertStatement) (d : Dialect) : Except Error Sql :=
  if s.columns.isEmpty then .error (.render .noColumns none)
  else if s.columns.length ≠ s.values.length then
    .error (.render (.columnCount s.columns.length s.values.length) none)
  else .ok <|
    .text ("INSERT INTO " ++ d.toSql s.table ++ " (" ++ commaSeparated (s.columns.map d.toSql)
      ++ ") VALUES (") :: Sql.separate ", " (s.values.map fun marker => [.marker marker])
      ++ [.text ")"]

def assignmentSql (d : Dialect) (assignment : Identifier × AssignedValue) : Sql :=
  [.text (d.toSql assignment.1 ++ " = "),
    match assignment.2 with
    | .marker m => .marker m
    | .null => .text "NULL"]

def UpdateStatement.sql (s : UpdateStatement) (d : Dialect) : Except Error Sql :=
  let head := "UPDATE " ++ d.toSql s.table ++ " SET"
  if s.assignments.isEmpty then .error (.render .noAssignments (some head))
  else .ok <|
    .text (head ++ " ") :: Sql.separate ", " (s.assignments.map (assignmentSql d))
      ++ whereClause d s.condition

def DeleteStatement.sql (s : DeleteStatement) (d : Dialect) : Sql :=
  .text ("DELETE FROM " ++ d.toSql s.table) :: whereClause d s.condition

def Statement.sql (d : Dialect) : Statement → Except Error Sql
  | select s => .ok (s.sql d)
  | insert s => s.sql d
  | update s => s.sql d
  | delete s => .ok (s.sql d)

end DataMapper
