import DataMapper.Conversion
import DataMapper.Spec
import DataMapper.Statement

/-!
# From specifications to operations

A `StatementMapper` turns a specification into an `Operation`, the text of a
statement with the plan of its values.  Every value of the specification goes
through the write converters once, gets a marker that carries the name of its
column as a hint, and is entered in the plan.

The criteria become a condition from left to right: each part is joined to what
the parts before it became, and a group becomes a condition in parentheses.

* A column without a table gets the table of the statement.
* An empty list is a constant: nothing is in it and everything is outside it.
* A comparison with the NULL is refused, the test for the NULL being another
  operator.  It is the value of the criteria that is looked at, before it is
  converted.

A lowering takes the position of its first marker and gives what it became
together with its entries of the plan, so the position of what follows is known
from their number.
-/

namespace DataMapper

/-- A dialect with the converters for bound values. -/
structure StatementMapper where
  dialect : Dialect
  conversions : Conversions

namespace StatementMapper

/-- The mapper of a dialect with its own converters alone. -/
def ofDialect (d : Dialect) : StatementMapper := ⟨d, d.conversions []⟩

/-! ## Binding -/

def marker (m : StatementMapper) (position : Nat) (column : Identifier) : Marker :=
  m.dialect.markers.marker position (some column.name)

/-- A settable with its value converted, its declared type unchanged. -/
def convert (m : StatementMapper) (value : Settable) : Except Error Settable :=
  match value.value with
  | some v => (m.conversions.writeValue v).map fun v => .ofValue v value.sqlType
  | none => .ok value

/-- The plan entry of a value with a declared type. -/
def bind (m : StatementMapper) (position : Nat) (column : Identifier) (value : Settable) :
    Except Error (Marker × Settable) :=
  (m.convert value).map fun value => (m.marker position column, value)

/-- The plan entry of a value of the criteria, typed by what it is converted to. -/
def bindOperand (m : StatementMapper) (position : Nat) (column : Identifier) (value : Value) :
    Except Error (Marker × Settable) :=
  (m.conversions.writeValue value).map fun value =>
    (m.marker position column, .ofValue value (value.sqlType?.getD .text))

/-- The plan entries of a list of values of the criteria. -/
def bindOperands (m : StatementMapper) (position : Nat) (column : Identifier) :
    List Value → Except Error Plan
  | [] => .ok []
  | value :: rest => do
      let entry ← m.bindOperand position column value
      let rest ← m.bindOperands (position + 1) column rest
      .ok (entry :: rest)

/-! ## Criteria -/

/-- A column with the table of the statement, unless it names its own. -/
def qualify (table : Identifier) (column : ColumnRef) : QualifiedColumn :=
  ⟨some (column.table.getD table), column.column⟩

def nullOperand (column : ColumnRef) (comparator : Comparator) : Error :=
  .render (.nullOperand column.display comparator.text) none

/-- A test as a condition, with its entries of the plan. -/
def lowerTest (m : StatementMapper) (table : Identifier) (position : Nat) (c : Criterion) :
    Except Error (Condition × Plan) :=
  let column := qualify table c.column
  let hint := c.column.column
  if c.comparator.isUnary then .ok (.unary column c.comparator.text, [])
  else match c.comparator, c.operand with
    | .isIn, .list [] => .ok (.constant "1 = 0", [])
    | .notIn, .list [] => .ok (.constant "1 = 1", [])
    | .isIn, .list values => do
        let entries ← m.bindOperands position hint values
        .ok (.isIn column (entries.map (·.1)) false, entries)
    | .notIn, .list values => do
        let entries ← m.bindOperands position hint values
        .ok (.isIn column (entries.map (·.1)) true, entries)
    | .between, .range low high =>
        if low.isNull || high.isNull then .error (nullOperand c.column .between)
        else do
          let low ← m.bindOperand position hint low
          let high ← m.bindOperand (position + 1) hint high
          .ok (.between column low.1 high.1, [low, high])
    | comparator, .single value =>
        if value.isNull then .error (nullOperand c.column comparator)
        else do
          let entry ← m.bindOperand position hint value
          .ok (.comparison column comparator.text entry.1, [entry])
    | comparator, operand =>
        .error (.render (.operandShape comparator.text operand.shape c.column.display) none)

def joinCondition (before : Option Condition) (join : Join) (condition : Condition) : Condition :=
  match before, join with
  | none, _ => condition
  | some left, .or => .or left condition
  | some left, _ => .and left condition

mutual

/-- A part as a condition, if it is not an empty group, with its entries of the plan. -/
def lowerPart (m : StatementMapper) (table : Identifier) (position : Nat) :
    CriteriaPart → Except Error (Option Condition × Plan)
  | .test _ criterion => do
      let (condition, entries) ← m.lowerTest table position criterion
      .ok (some condition, entries)
  | .group _ parts => do
      let (condition, entries) ← m.lowerParts table position none parts
      .ok (condition.map .nested, entries)

/-- Parts joined to the condition before them, with their entries of the plan. -/
def lowerParts (m : StatementMapper) (table : Identifier) (position : Nat)
    (before : Option Condition) : List CriteriaPart → Except Error (Option Condition × Plan)
  | [] => .ok (before, [])
  | part :: rest => do
      let (condition, entries) ← m.lowerPart table position part
      let joined :=
        match condition with
        | some condition => some (joinCondition before part.join condition)
        | none => before
      let (condition, more) ← m.lowerParts table (position + entries.length) joined rest
      .ok (condition, entries ++ more)

end

/-- Criteria as a condition, with their entries of the plan. -/
def lowerCriteria (m : StatementMapper) (table : Identifier) (position : Nat) (c : Criteria) :
    Except Error (Option Condition × Plan) :=
  m.lowerParts table position none c.parts

/-! ## Values -/

/-- The plan entries of the columns of a row. -/
def bindRow (m : StatementMapper) (position : Nat) :
    List (Identifier × Settable) → Except Error Plan
  | [] => .ok []
  | (column, value) :: rest => do
      let entry ← m.bind position column value
      let rest ← m.bindRow (position + 1) rest
      .ok (entry :: rest)

/-- Assignments with markers for their values, and their entries of the plan. -/
def lowerAssignments (m : StatementMapper) (position : Nat) :
    List (Identifier × Assignment) →
      Except Error (List (Identifier × AssignedValue) × Plan)
  | [] => .ok ([], [])
  | (column, .null) :: rest => do
      let (assigned, entries) ← m.lowerAssignments position rest
      .ok ((column, .null) :: assigned, entries)
  | (column, .value value) :: rest => do
      let entry ← m.bind position column value
      let (assigned, entries) ← m.lowerAssignments (position + 1) rest
      .ok ((column, .marker entry.1) :: assigned, entry :: entries)

/-! ## Operations -/

def lowerSelect (m : StatementMapper) (s : SelectSpec) : Except Error (Statement × Plan) := do
  let (condition, entries) ← m.lowerCriteria s.table 0 s.criteria
  .ok (.select {
    distinct := s.distinct
    projection := s.projection.map fun column => ⟨some s.table, column⟩
    table := s.table
    condition := condition
    orderBy := s.sort.map fun order => ⟨qualify s.table order.column, order.suffix⟩
    limit := s.limit
    offset := s.offset }, entries)

def lowerInsert (m : StatementMapper) (s : InsertSpec) : Except Error (Statement × Plan) := do
  let entries ← m.bindRow 0 s.row.entries
  .ok (.insert ⟨s.table, s.row.columns, entries.map (·.1)⟩, entries)

def lowerUpdate (m : StatementMapper) (s : UpdateSpec) : Except Error (Statement × Plan) := do
  let (assigned, entries) ← m.lowerAssignments 0 s.assignments.entries
  let (condition, more) ← m.lowerCriteria s.table entries.length s.criteria
  .ok (.update ⟨s.table, assigned, condition⟩, entries ++ more)

def lowerDelete (m : StatementMapper) (s : DeleteSpec) : Except Error (Statement × Plan) := do
  let (condition, entries) ← m.lowerCriteria s.table 0 s.criteria
  .ok (.delete ⟨s.table, condition⟩, entries)

def finish (m : StatementMapper) (lowered : Statement × Plan) : Except Error Operation :=
  (lowered.1.sql m.dialect).map fun sql => ⟨sql.text, lowered.2⟩

def mapSelect (m : StatementMapper) (s : SelectSpec) : Except Error Operation :=
  m.lowerSelect s >>= m.finish

def mapInsert (m : StatementMapper) (s : InsertSpec) : Except Error Operation :=
  m.lowerInsert s >>= m.finish

def mapUpdate (m : StatementMapper) (s : UpdateSpec) : Except Error Operation :=
  m.lowerUpdate s >>= m.finish

def mapDelete (m : StatementMapper) (s : DeleteSpec) : Except Error Operation :=
  m.lowerDelete s >>= m.finish

def map (m : StatementMapper) : Spec → Except Error Operation
  | .select s => m.mapSelect s
  | .insert s => m.mapInsert s
  | .update s => m.mapUpdate s
  | .delete s => m.mapDelete s

end StatementMapper

end DataMapper
