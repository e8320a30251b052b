import DataMapper.FieldType
import DataMapper.Text.LetterCase

/-!
# Rows of a driver

A driver answers a query with rows.  The `Column`s of the result are the same
for each row, and a row has a list of values that may be shorter or longer.

A column is looked up by label, without regard to the case of ASCII letters,
and the first of two that match is found.  `Columns.indexOf?` is the lookup, by
a `LabelIndex` that holds a position for the key of each label.

A `LabelMap` is a row as a map from labels to values that keeps the first label
of each class of equal labels, in the order of the columns.  It has an index of
its own, since its positions are not those of the columns.
-/

namespace DataMapper

/-! ## Positions by label -/

/-- Positions by the keys of labels. -/
structure LabelIndex where
  /-- The keys with their positions, of which the first under a key counts. -/
  entries : List (List Char × Nat)

namespace LabelIndex

/-- The index without positions. -/
def empty : LabelIndex := ⟨[]⟩

def find? (index : LabelIndex) (label : String) : Option Nat :=
  index.entries.lookup (Text.foldLabel label)

def contains (index : LabelIndex) (label : String) : Bool := (index.find? label).isSome

/-- Puts a position under a label. -/
def insert (index : LabelIndex) (label : String) (position : Nat) : LabelIndex :=
  ⟨(Text.foldLabel label, position) :: index.entries⟩

/-- Puts a position under a label, unless there is one under a label that matches. -/
def insertNew (index : LabelIndex) (label : String) (position : Nat) : LabelIndex :=
  if index.contains label then index else index.insert label position

end LabelIndex

/-! ## Columns -/

/-- A column of a result. -/
structure Column where
  label : String
  /-- The type, when the driver knows it. -/
  sqlType : Option SqlType := none
  /-- Whether the column can be NULL, when the driver knows it. -/
  nullable : Option Bool := none
  deriving DecidableEq, Repr

/-- The columns of a result, in the order of the driver. -/
abbrev Columns := List Column

namespace Columns

def ofLabels (labels : List String) : Columns := labels.map fun label => ⟨label, none, none⟩

def labels (columns : Columns) : List String := columns.map Column.label

/-- Columns from a position on, put into an index in order. -/
def indexFrom : LabelIndex → Nat → List Column → LabelIndex
  | index, _, [] => index
  | index, position, column :: rest =>
      indexFrom (index.insertNew column.label position) (position + 1) rest

/-- The positions of the columns by their labels. -/
def index (columns : Columns) : LabelIndex := indexFrom .empty 0 columns

/-- The position of the first column whose label matches. -/
def indexOf? (columns : Columns) (label : String) : Option Nat := columns.index.find? label

/-- The first column whose label matches. -/
def named? (columns : Columns) (label : String) : Option Column :=
  (columns.indexOf? label).bind fun i => columns[i]?

/-- Whether some label matches. -/
def contains (columns : Columns) (label : String) : Bool := (columns.indexOf? label).isSome

end Columns

/-! ## Rows -/

/-- A row of a result. -/
structure Row where
  columns : Columns
  /-- The values, which may be fewer or more than the columns. -/
  values : List Value

namespace Row

def get? (row : Row) (position : Nat) : Option Value := row.values[position]?

/-- The value at a position, a missing one being the NULL. -/
def getOrNull (row : Row) (position : Nat) : Value := (row.get? position).getD .null

def find? (row : Row) (label : String) : Option Value :=
  (row.columns.indexOf? label).bind row.get?

/-- The data under a label, read by a function.  `typeName` is the name of the
type that a message gives when there is no value under the label. -/
def read {α : Type} (row : Row) (label typeName : String) (reader : Value → Except Error α) :
    Except Error α :=
  match row.find? label with
  | some value => atColumn label (reader value)
  | none => .error (.conversion typeName s!"column '{label}' not found" (some label))

/-- The labels with the values at their positions. -/
def pairs (row : Row) : List (String × Value) := row.columns.labels.zip row.values

end Row

/-! ## Maps from labels -/

/-- A map from labels to values, in order, in which no two labels match. -/
structure LabelMap where
  entries : List (String × Value)
  /-- The positions of the entries by their labels. -/
  index : LabelIndex

namespace LabelMap

/-- The map without entries. -/
def empty : LabelMap := ⟨[], .empty⟩

def get? (m : LabelMap) (label : String) : Option Value :=
  (m.index.find? label).bind fun i => m.entries[i]?.map (·.2)

def contains (m : LabelMap) (label : String) : Bool := m.index.contains label

/-- Adds an entry at the end, unless a label that matches is there. -/
def insert (m : LabelMap) (label : String) (value : Value) : LabelMap :=
  if m.contains label then m
  else ⟨m.entries ++ [(label, value)], m.index.insert label m.entries.length⟩

/-- The number of entries. -/
def size (m : LabelMap) : Nat := m.entries.length

def labels (m : LabelMap) : List String := m.entries.map (·.1)

/-- Labels with the values at positions from a first one on, inserted in order. -/
def insertFrom (row : Row) : LabelMap → Nat → List String → LabelMap
  | m, _, [] => m
  | m, position, label :: rest =>
      insertFrom row (m.insert label (row.getOrNull position)) (position + 1) rest

/-- A row as a map.  A column the row is too short for has the NULL. -/
def ofRow (row : Row) : LabelMap := insertFrom row empty 0 row.columns.labels

end LabelMap

/-! ## Checks -/

example : (Columns.ofLabels ["a", "B", "b"]).indexOf? "b" = some 1 := by decide

end DataMapper
