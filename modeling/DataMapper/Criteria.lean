import DataMapper.Identifier
import DataMapper.Value

/-!
# Criteria

A `Criteria` is a chain of tests and groups, each joined to the ones before it
by AND or OR, and read from left to right.  A group is itself a chain, and is
read as if it stood in parentheses.

Criteria are built from the empty chain by adding tests and groups at the end.
The first part of a chain has nothing to join, so its join is `Join.initial`
whatever was asked for.  An empty group is not added.  `Criteria.Built` holds of
what can be built in this way.

A test for equality with the NULL is the test for being NULL.
-/

namespace DataMapper

/-! ## Columns of a test -/

/-- A column in a test or an order, with its table when that is named. -/
structure ColumnRef where
  /-- The table, when it is named. -/
  table : Option Identifier
  column : Identifier
  deriving DecidableEq, Repr

namespace ColumnRef

/-- A column of the table of the statement. -/
def ofIdentifier (column : Identifier) : ColumnRef := ⟨none, column⟩

/-- A text as a column.  It names the table too when there is something on both
sides of its first point. -/
def ofText (text : String) : ColumnRef :=
  let cs := text.toList
  let table := cs.takeWhile (· ≠ '.')
  let column := (cs.dropWhile (· ≠ '.')).drop 1
  if table.isEmpty ∨ column.isEmpty then ⟨none, .unquoted text⟩
  else ⟨some (.unquoted (String.ofList table)), .unquoted (String.ofList column)⟩

/-- The names with a point between them, as messages give them. -/
def display (c : ColumnRef) : String :=
  match c.table with
  | some table => table.name ++ "." ++ c.column.name
  | none => c.column.name

end ColumnRef

/-! ## Tests -/

/-- The operator of a test. -/
inductive Comparator where
  | eq
  | notEq
  | lt
  | lte
  | gt
  | gte
  | like
  | notLike
  | isIn
  | notIn
  | isNull
  | isNotNull
  | isTrue
  | isFalse
  | between
  deriving DecidableEq, Repr

namespace Comparator

/-- The operator in SQL. -/
def text : Comparator → String
  | eq => "="
  | notEq => "<>"
  | lt => "<"
  | lte => "<="
  | gt => ">"
  | gte => ">="
  | like => "LIKE"
  | notLike => "NOT LIKE"
  | isIn => "IN"
  | notIn => "NOT IN"
  | isNull => "IS NULL"
  | isNotNull => "IS NOT NULL"
  | isTrue => "IS TRUE"
  | isFalse => "IS FALSE"
  | between => "BETWEEN"

/-- Whether the operator takes no operand. -/
def isUnary : Comparator → Bool
  | isNull | isNotNull | isTrue | isFalse => true
  | _ => false

end Comparator

/-- What a column is compared with. -/
inductive Operand where
  | none
  | single (value : Value)
  | list (values : List Value)
  /-- A range of values, with its ends. -/
  | range (low high : Value)

/-- The name of the shape of an operand, as messages give it. -/
def Operand.shape : Operand → String
  | none => "None"
  | single _ => "Single"
  | list _ => "List"
  | range _ _ => "Range"

/-- A column, an operator and an operand. -/
structure Criterion where
  column : ColumnRef
  comparator : Comparator
  operand : Operand

namespace Criterion

/-- A test of a column against one value.  Equality with the NULL, and its
negation, test for the NULL. -/
def ofSingle (column : ColumnRef) (comparator : Comparator) (value : Value) : Criterion :=
  match comparator, value with
  | .eq, .null => ⟨column, .isNull, .none⟩
  | .notEq, .null => ⟨column, .isNotNull, .none⟩
  | comparator, value => ⟨column, comparator, .single value⟩

end Criterion

/-- A test as a builder makes it: an operator applied to what it takes. -/
inductive Criterion.Built : Criterion → Prop where
  | single (column : ColumnRef) (comparator : Comparator) (value : Value)
      (h : comparator ∈ [.eq, .notEq, .lt, .lte, .gt, .gte, .like, .notLike]) :
      Criterion.Built (.ofSingle column comparator value)
  | list (column : ColumnRef) (comparator : Comparator) (values : List Value)
      (h : comparator ∈ [.isIn, .notIn]) :
      Criterion.Built ⟨column, comparator, .list values⟩
  | range (column : ColumnRef) (low high : Value) :
      Criterion.Built ⟨column, .between, .range low high⟩
  | unary (column : ColumnRef) (comparator : Comparator) (h : comparator.isUnary = true) :
      Criterion.Built ⟨column, comparator, .none⟩

/-! ## Chains -/

/-- How a part joins the parts before it. -/
inductive Join where
  /-- The part is the first. -/
  | initial
  /-- Both must hold. -/
  | and
  /-- One must hold. -/
  | or
  deriving DecidableEq, Repr

def Join.text : Join → String
  | initial => ""
  | and => "AND"
  | or => "OR"

/-- A part of a chain. -/
inductive CriteriaPart where
  | test (join : Join) (criterion : Criterion)
  /-- A chain in parentheses. -/
  | group (join : Join) (parts : List CriteriaPart)

/-- How a part joins the parts before it. -/
def CriteriaPart.join : CriteriaPart → Join
  | test join _ => join
  | group join _ => join

/-- A chain of tests and groups. -/
structure Criteria where
  parts : List CriteriaPart

namespace Criteria

/-- The chain that everything passes. -/
def empty : Criteria := ⟨[]⟩

/-- Whether the chain has no part. -/
def isEmpty (c : Criteria) : Bool := c.parts.isEmpty

/-- The number of parts, a group counting as one. -/
def size (c : Criteria) : Nat := c.parts.length

/-- The join of a part added at the end. -/
def joinAt (c : Criteria) (join : Join) : Join := if c.isEmpty then .initial else join

/-- Adds a test at the end. -/
def addTest (c : Criteria) (join : Join) (criterion : Criterion) : Criteria :=
  ⟨c.parts ++ [.test (c.joinAt join) criterion]⟩

/-- Adds a group at the end, unless it is empty. -/
def addGroup (c : Criteria) (join : Join) (group : Criteria) : Criteria :=
  if group.isEmpty then c else ⟨c.parts ++ [.group (c.joinAt join) group.parts]⟩

/-- A chain that is built by adding tests and groups to the empty chain. -/
inductive Built : Criteria → Prop where
  | empty : Built .empty
  | addTest {c : Criteria} (built : Built c) (join : Join) (h : join ≠ .initial)
      {criterion : Criterion} (test : criterion.Built) : Built (c.addTest join criterion)
  | addGroup {c group : Criteria} (built : Built c) (join : Join) (h : join ≠ .initial)
      (inner : Built group) : Built (c.addGroup join group)

/-! ## Checks -/

example : (empty.addGroup .or (empty.addGroup .and empty)).size = 0 := by decide
example : ColumnRef.ofText "a.b.c" = ⟨some (.unquoted "a"), .unquoted "b.c"⟩ := by decide
example : ColumnRef.ofText ".b" = ⟨none, .unquoted ".b"⟩ := by decide

end Criteria

end DataMapper
