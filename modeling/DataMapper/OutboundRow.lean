import DataMapper.Identifier
import DataMapper.Settable

/-!
# Outbound rows

An `OutboundRow` maps columns to settable values, in the order in which the
columns were first put.  Columns are compared by `Identifier.equiv`.  Putting a
column that is there replaces its value and keeps its place and its spelling,
and removing a column frees it, so that it is put at the end the next time.

The row is its list of entries.  `OutboundRow.Distinct` says that no two of its
columns are equivalent, and every operation keeps it.
-/

namespace DataMapper

/-- Columns and their values, in order. -/
structure OutboundRow where
  /-- The entries, in the order of their first insertion. -/
  entries : List (Identifier × Settable)

namespace OutboundRow

/-- The row without columns. -/
def empty : OutboundRow := ⟨[]⟩

def putEntry (column : Identifier) (value : Settable) :
    List (Identifier × Settable) → List (Identifier × Settable)
  | [] => [(column, value)]
  | (key, old) :: rest =>
      if key.equiv column then (key, value) :: rest
      else (key, old) :: putEntry column value rest

/-- The entries without the first one of a column. -/
def removeEntry (column : Identifier) :
    List (Identifier × Settable) → List (Identifier × Settable)
  | [] => []
  | (key, value) :: rest =>
      if key.equiv column then rest else (key, value) :: removeEntry column rest

/-- Puts a value under a column. -/
def put (row : OutboundRow) (column : Identifier) (value : Settable) : OutboundRow :=
  ⟨putEntry column value row.entries⟩

/-- The row with one more value put, for building a row column by column. -/
def append (row : OutboundRow) (column : Identifier) (value : Settable) : OutboundRow :=
  row.put column value

def get? (row : OutboundRow) (column : Identifier) : Option Settable :=
  (row.entries.find? fun entry => entry.1.equiv column).map (·.2)

def contains (row : OutboundRow) (column : Identifier) : Bool := (row.get? column).isSome

def assign (row : OutboundRow) (column : Identifier) (value : Settable) : OutboundRow :=
  if row.contains column then row.put column value else row

/-- The row without a column. -/
def remove (row : OutboundRow) (column : Identifier) : OutboundRow :=
  ⟨removeEntry column row.entries⟩

def columns (row : OutboundRow) : List Identifier := row.entries.map (·.1)

/-- The number of columns. -/
def size (row : OutboundRow) : Nat := row.entries.length

def isEmpty (row : OutboundRow) : Bool := row.entries.isEmpty

/-- The row that entries give when they are put one after the other. -/
def ofEntries (entries : List (Identifier × Settable)) : OutboundRow :=
  entries.foldl (fun row entry => row.put entry.1 entry.2) empty

/-- Whether no two columns are equivalent. -/
def Distinct (row : OutboundRow) : Prop :=
  row.columns.Pairwise fun a b => a.equiv b = false

/-- Whether two rows have equivalent columns with equal values in the same order. -/
def same (a b : OutboundRow) : Bool :=
  a.entries.length == b.entries.length &&
    (a.entries.zip b.entries).all fun (x, y) => x.1.equiv y.1 && x.2.same y.2

/-! ## Checks -/

example : ((empty.put (.unquoted "a") (.empty .text)).put (.unquoted "A") (.empty .date)).columns
    = [.unquoted "a"] := by decide
example : (ofEntries [(.unquoted "a", .empty .text), (.ofQuoted "a", .empty .date)]).size = 2 := by
  decide

end OutboundRow

end DataMapper
