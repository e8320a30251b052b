import DataMapper.Sql

/-!
# Conditions

A `Condition` is the tree of a WHERE clause, in which every value is a marker
already.  It is written as a row of tokens, with the two children of AND and OR
on either side of the word.  Parentheses come from `Condition.nested` alone, so
that a reader who lets AND bind tighter than OR may group a text in another way
than the tree does.
-/

namespace DataMapper

/-- A column of a statement, after its table when that is given. -/
structure QualifiedColumn where
  table : Option Identifier
  name : Identifier
  deriving DecidableEq, Repr

def QualifiedColumn.text (c : QualifiedColumn) (d : Dialect) : String :=
  match c.table with
  | some table => d.toSql table ++ "." ++ d.toSql c.name
  | none => d.toSql c.name

/-- A tree of conditions. -/
inductive Condition where
  | comparison (column : QualifiedColumn) (op : String) (marker : Marker)
  | unary (column : QualifiedColumn) (op : String)
  | isIn (column : QualifiedColumn) (markers : List Marker) (negated : Bool)
  | between (column : QualifiedColumn) (low high : Marker)
  /-- A condition that reads no column. -/
  | constant (sql : String)
  | nested (inner : Condition)
  | and (left right : Condition)
  | or (left right : Condition)
  deriving DecidableEq, Repr

/-- A token of a written condition. -/
inductive ConditionToken where
  /-- A condition without AND, OR and parentheses around it. -/
  | atom (sql : Sql)
  | and
  | or
  | opening
  | closing
  deriving DecidableEq, Repr

def ConditionToken.sql : ConditionToken → Sql
  | atom sql => sql
  | and => [.text " AND "]
  | or => [.text " OR "]
  | opening => [.text "("]
  | closing => [.text ")"]

namespace Condition

/-- A condition without AND, OR and parentheses, as fragments.  The others have none. -/
def atomSql (d : Dialect) : Condition → Sql
  | comparison column op marker => [.text (column.text d ++ " " ++ op ++ " "), .marker marker]
  | unary column op => [.text (column.text d ++ " " ++ op)]
  | isIn column markers negated =>
      .text (column.text d ++ (if negated then " NOT IN (" else " IN (")) ::
        Sql.separate ", " (markers.map fun marker => [.marker marker]) ++ [.text ")"]
  | between column low high =>
      [.text (column.text d ++ " BETWEEN "), .marker low, .text " AND ", .marker high]
  | constant sql => [.text sql]
  | nested _ | and _ _ | or _ _ => []

def tokens (d : Dialect) : Condition → List ConditionToken
  | nested inner => .opening :: inner.tokens d ++ [.closing]
  | and left right => left.tokens d ++ .and :: right.tokens d
  | or left right => left.tokens d ++ .or :: right.tokens d
  | condition => [.atom (condition.atomSql d)]

def sql (d : Dialect) (condition : Condition) : Sql :=
  (condition.tokens d).flatMap ConditionToken.sql

/-- The markers of a condition, from left to right. -/
def markers : Condition → List Marker
  | comparison _ _ marker => [marker]
  | unary _ _ | constant _ => []
  | isIn _ markers _ => markers
  | between _ low high => [low, high]
  | nested inner => inner.markers
  | and left right | or left right => left.markers ++ right.markers

end Condition

end DataMapper
