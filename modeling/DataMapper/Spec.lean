import DataMapper.Criteria
import DataMapper.OutboundRow

/-!
# Statement specifications

A specification says what a statement is to do, with values in place.

* A `SelectSpec` names a table, columns, criteria, an order and a page.
* An `InsertSpec` names a table and the row to insert.
* An `UpdateSpec` names a table, assignments and criteria.
* A `DeleteSpec` names a table and criteria.

An `Assignments` is the SET list of an UPDATE.  Assigning to a column that is
there replaces what it is assigned and keeps its place.  The NULL is assigned as
a word, whereas an empty value of a type is bound.
-/

namespace DataMapper

/-! ## Orders -/

/-- The place of NULLs in an order. -/
inductive NullsPlace where
  | first
  | last
  deriving DecidableEq, Repr

/-- A column by which rows are ordered. -/
structure Order where
  column : ColumnRef
  /-- Whether the greatest value comes first. -/
  descending : Bool
  nulls : Option NullsPlace
  deriving DecidableEq, Repr

/-- What follows the column of an order. -/
def Order.suffix (o : Order) : String :=
  (if o.descending then " DESC" else " ASC") ++
    match o.nulls with
    | some .first => " NULLS FIRST"
    | some .last => " NULLS LAST"
    | none => ""

/-! ## Assignments -/

/-- What a column is assigned. -/
inductive Assignment where
  /-- A value that is bound. -/
  | value (value : Settable)
  /-- The word NULL. -/
  | null

/-- The columns of an UPDATE and what they are assigned, in order. -/
structure Assignments where
  entries : List (Identifier × Assignment)

namespace Assignments

def empty : Assignments := ⟨[]⟩

def isEmpty (a : Assignments) : Bool := a.entries.isEmpty

def putEntry (column : Identifier) (assignment : Assignment) :
    List (Identifier × Assignment) → List (Identifier × Assignment)
  | [] => [(column, assignment)]
  | (key, old) :: rest =>
      if key.equiv column then (key, assignment) :: rest
      else (key, old) :: putEntry column assignment rest

def assign (a : Assignments) (column : Identifier) (assignment : Assignment) : Assignments :=
  ⟨putEntry column assignment a.entries⟩

/-- What a value is assigned as.  Its type is the one it binds as, or text. -/
def ofValue : Value → Assignment
  | .null => .null
  | value => .value (.ofValue value (value.sqlType?.getD .text))

/-- Assigns a value, or the word NULL for the NULL. -/
def set (a : Assignments) (column : Identifier) (value : Value) : Assignments :=
  a.assign column (ofValue value)

/-- Assigns a value of a type, an empty one being bound. -/
def setValue (a : Assignments) (column : Identifier) (value : Settable) : Assignments :=
  a.assign column (.value value)

/-- Assigns the bound NULL of a type. -/
def setNull (a : Assignments) (column : Identifier) (type : SqlType) : Assignments :=
  a.setValue column (.empty type)

/-- Assigns every value of a row to its column, in order. -/
def ofRow (row : OutboundRow) : Assignments :=
  row.entries.foldl (fun a entry => a.setValue entry.1 entry.2) empty

end Assignments

/-! ## Specifications -/

/-- What a SELECT is to do. -/
structure SelectSpec where
  table : Identifier
  /-- The columns, all of them when there are none. -/
  projection : List Identifier := []
  criteria : Criteria := .empty
  sort : List Order := []
  /-- The number of rows at most. -/
  limit : Option Nat := none
  /-- The number of rows skipped. -/
  offset : Option Nat := none
  /-- Whether equal rows are given once. -/
  distinct : Bool := false

/-- Adds columns after those that are there. -/
def SelectSpec.project (s : SelectSpec) (columns : List Identifier) : SelectSpec :=
  { s with projection := s.projection ++ columns }

/-- What an INSERT is to do. -/
structure InsertSpec where
  table : Identifier
  row : OutboundRow := .empty

/-- What an UPDATE is to do. -/
structure UpdateSpec where
  table : Identifier
  assignments : Assignments
  criteria : Criteria := .empty

/-- What a DELETE is to do. -/
structure DeleteSpec where
  table : Identifier
  criteria : Criteria := .empty

/-- What a statement is to do. -/
inductive Spec where
  | select (s : SelectSpec)
  | insert (s : InsertSpec)
  | update (s : UpdateSpec)
  | delete (s : DeleteSpec)

end DataMapper
