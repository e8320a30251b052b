import DataMapper.Proofs.Condition.Truth
import DataMapper.Proofs.Statement.Markers

/-!
# What a condition says of its values

A test compares a column with values, and the condition it becomes compares the
column with markers, whose values are in the plan.  Both say the same, whatever
the comparisons mean.  An `Interpretation` is what they mean: the truth of a
column of a table compared with values.

* A criterion compares the column of its own table, or else of the table of the
  statement, with its operands as they are converted (`Criterion.truth`).
* An atomic condition compares its column with what the plan holds under the
  addresses of its markers (`Condition.atomTruth`).

What a plan holds under an address is the value of its first entry there.  No
other entry can be meant, as no two markers of a statement have one address.  So
every marker of the condition stands for the value of its own test, with those
of an UPDATE list before it, and `StatementMapper.truth_of_lower` follows.
-/

namespace DataMapper

/-! ## Operators in text -/

namespace Comparator

/-- All operators. -/
def all : List Comparator :=
  [eq, notEq, lt, lte, gt, gte, like, notLike, isIn, notIn, isNull, isNotNull, isTrue, isFalse,
    between]

/-- The operator that is written as a text. -/
def ofText? (text : String) : Option Comparator := all.find? fun c => c.text = text

theorem ofText?_text (c : Comparator) : ofText? c.text = some c := by cases c <;> decide

end Comparator

/-! ## Criteria -/

/-- The truth of a column of a table compared with values. -/
abbrev Interpretation := Identifier → Identifier → Comparator → List Value → Truth

/-- The values of an operand. -/
def Operand.values : Operand → List Value
  | none => []
  | single value => [value]
  | list values => values
  | range low high => [low, high]

/-- A value as it is converted, or the NULL where that fails. -/
def Conversions.written (conversions : Conversions) (value : Value) : Value :=
  match conversions.writeValue value with
  | .ok stored => stored
  | .error _ => .null

/-- The truth of a test in a statement about a table. -/
def Criterion.truth (I : Interpretation) (conversions : Conversions) (table : Identifier)
    (c : Criterion) : Truth :=
  match c.comparator, c.operand with
  | .isIn, .list [] => .fails
  | .notIn, .list [] => .holds
  | comparator, operand =>
      let values := if comparator.isUnary then [] else operand.values
      I (c.column.table.getD table) c.column.column comparator (values.map conversions.written)

/-! ## Conditions -/

/-- What a plan holds under an address, the NULL when there is nothing. -/
def Plan.valueAt (plan : Plan) (id : BindId) : Value :=
  match plan.find? fun entry => entry.1.id = id with
  | some entry => entry.2.value.getD .null
  | none => .null

/-- The truth of a column compared with values. -/
def QualifiedColumn.truth (I : Interpretation) (column : QualifiedColumn)
    (comparator : Comparator) (values : List Value) : Truth :=
  match column.table with
  | some table => I table column.name comparator values
  | none => .unknown

/-- The truth of an atomic condition, with values of a plan for its markers. -/
def Condition.atomTruth (I : Interpretation) (plan : Plan) : Condition → Truth
  | comparison column op marker =>
      match Comparator.ofText? op with
      | some comparator => column.truth I comparator [plan.valueAt marker.id]
      | none => .unknown
  | unary column op =>
      match Comparator.ofText? op with
      | some comparator => column.truth I comparator []
      | none => .unknown
  | isIn column markers negated =>
      column.truth I (if negated then .notIn else .isIn)
        (markers.map fun marker => plan.valueAt marker.id)
  | between column low high =>
      column.truth I .between [plan.valueAt low.id, plan.valueAt high.id]
  | constant sql =>
      if sql = "1 = 0" then .fails else if sql = "1 = 1" then .holds else .unknown
  | nested _ | and _ _ | or _ _ => .unknown

/-! ## Values of a plan -/

namespace Plan

/-- Whether no two markers of a plan have one address. -/
def Addressed (plan : Plan) : Prop := (plan.markers.map Marker.id).Nodup

/-- A plan holds the value of each entry under its address. -/
theorem Addressed.valueAt_id {plan : Plan} (addressed : plan.Addressed)
    {entry : Marker × Settable} (h : entry ∈ plan) :
    plan.valueAt entry.1.id = entry.2.value.getD .null := by
  induction plan with
  | nil => cases h
  | cons first rest ih =>
      obtain ⟨other, later⟩ := List.nodup_cons.mp addressed
      rw [valueAt, List.find?_cons]
      rcases List.mem_cons.mp h with rfl | h
      · rw [decide_eq_true rfl]
      · have differ : first.1.id ≠ entry.1.id := by
          intro same
          rw [same] at other
          exact other (List.mem_map_of_mem (List.mem_map_of_mem h))
        rw [decide_eq_false differ]
        exact ih later h

end Plan

namespace StatementMapper

variable {m : StatementMapper} {table : Identifier} {position : Nat} {column : Identifier}
  {plan : Plan}

/-- A plan holds a converted value under the address of its marker. -/
theorem valueAt_of_bindOperand (addressed : plan.Addressed) {value : Value}
    {entry : Marker × Settable} (h : m.bindOperand position column value = .ok entry)
    (inside : entry ∈ plan) : plan.valueAt entry.1.id = m.conversions.written value := by
  obtain ⟨stored, hstored, rfl⟩ := bindOperand_eq_ok.mp h
  rw [addressed.valueAt_id inside, Conversions.written, hstored, Settable.getD_value_ofValue]

/-- So it does for each value of a list. -/
theorem valueAt_of_bindOperands (addressed : plan.Addressed) {values : List Value}
    {entries : Plan} (h : m.bindOperands position column values = .ok entries)
    (inside : entries ⊆ plan) :
    (entries.markers.map fun marker => plan.valueAt marker.id)
      = values.map m.conversions.written := by
  induction values generalizing position entries with
  | nil =>
      cases h
      rfl
  | cons value rest ih =>
      obtain ⟨entry, more, hentry, hmore, rfl⟩ := bindOperands_cons_eq_ok h
      obtain ⟨here, later⟩ := List.cons_subset.mp inside
      rw [Plan.markers, List.map_cons, List.map_cons, List.map_cons,
        valueAt_of_bindOperand addressed hentry here]
      exact congrArg _ (ih hmore later)

/-- A test and the condition it becomes say the same. -/
theorem atomTruth_of_lowersTest (I : Interpretation) (addressed : plan.Addressed)
    {c : Criterion} {condition : Condition} {entries : Plan}
    (h : LowersTest m table position c condition entries) (inside : entries ⊆ plan) :
    condition.atomTruth I plan = c.truth I m.conversions table := by
  cases h with
  | @unary column comparator operand unary =>
      rw [Condition.atomTruth, Comparator.ofText?_text]
      cases comparator <;> first | rfl | cases unary
  | emptyIn => rfl
  | emptyNotIn => rfl
  | @isIn column values _ filled hvalues =>
      rw [Condition.atomTruth, valueAt_of_bindOperands addressed hvalues inside]
      cases values with
      | nil => cases filled rfl
      | cons value rest => rfl
  | @notIn column values _ filled hvalues =>
      rw [Condition.atomTruth, valueAt_of_bindOperands addressed hvalues inside]
      cases values with
      | nil => cases filled rfl
      | cons value rest => rfl
  | between _ _ hlow hhigh =>
      obtain ⟨first, last⟩ := List.cons_subset.mp inside
      rw [Condition.atomTruth, valueAt_of_bindOperand addressed hlow first,
        valueAt_of_bindOperand addressed hhigh (last (List.mem_singleton.mpr rfl))]
      rfl
  | @comparison column comparator value entry binary here hentry =>
      rw [Condition.atomTruth, Comparator.ofText?_text,
        valueAt_of_bindOperand addressed hentry (inside (List.mem_singleton.mpr rfl))]
      cases comparator <;> first | rfl | cases binary

end StatementMapper

/-! ## Statements -/

/-- The table of a specification. -/
def Spec.table : Spec → Identifier
  | select s => s.table
  | insert s => s.table
  | update s => s.table
  | delete s => s.table

/-- The criteria of a specification, which an INSERT has none of. -/
def Spec.criteria : Spec → Criteria
  | select s => s.criteria
  | insert _ => .empty
  | update s => s.criteria
  | delete s => s.criteria

/-- The condition of a statement, if it has one. -/
def Statement.condition : Statement → Option Condition
  | select s => s.condition
  | insert _ => none
  | update s => s.condition
  | delete s => s.condition

namespace MarkerFactory

/-- Room for the numbers below a bound is room for those below a smaller one. -/
theorem HasRoom.mono {factory : MarkerFactory} {small large : Nat} (h : factory.HasRoom large)
    (le : small ≤ large) : factory.HasRoom small := by
  cases factory with
  | indexed sigil offset => trivial
  | anonymous placeholder => trivial
  | named sigil style => exact fun position less => h position (Nat.lt_of_lt_of_le less le)

end MarkerFactory

namespace StatementMapper

variable {m : StatementMapper} {spec : Spec} {statement : Statement} {plan : Plan}

/-- The condition of a lowered statement is what its criteria become, with entries
of its plan. -/
theorem lowers_of_lower (h : m.lower spec = .ok (statement, plan)) :
    ∃ position entries, entries ⊆ plan ∧
      Lowers m spec.table position spec.criteria.parts statement.condition entries := by
  cases spec with
  | select s =>
      obtain ⟨⟨condition, entries⟩, hcriteria, h⟩ := Outcome.bind_eq_ok.mp h
      cases h
      exact ⟨_, _, List.Subset.refl _, lowers_of_eq_ok hcriteria⟩
  | insert s =>
      obtain ⟨entries, hrow, h⟩ := Outcome.bind_eq_ok.mp h
      cases h
      exact ⟨0, [], List.nil_subset _, .nil⟩
  | update s =>
      obtain ⟨⟨assigned, entries⟩, hassigned, h⟩ := Outcome.bind_eq_ok.mp h
      obtain ⟨⟨condition, more⟩, hcriteria, h⟩ := Outcome.bind_eq_ok.mp h
      cases h
      exact ⟨_, _, List.subset_append_right _ _, lowers_of_eq_ok hcriteria⟩
  | delete s =>
      obtain ⟨⟨condition, entries⟩, hcriteria, h⟩ := Outcome.bind_eq_ok.mp h
      cases h
      exact ⟨_, _, List.Subset.refl _, lowers_of_eq_ok hcriteria⟩

/-- With the markers of a built-in dialect, no two markers of a statement have one
address. -/
theorem addressed_of_lower (builtIn : m.dialect.markers ∈ Dialect.builtIn.map Dialect.markers)
    (h : m.lower spec = .ok (statement, plan)) (fits : plan.length ≤ twoPow 64) :
    plan.Addressed := by
  obtain ⟨d, hd, same⟩ := List.mem_map.mp builtIn
  obtain ⟨-, hints, hrun⟩ := markers_of_lower h
  have count : hints.length = plan.length := by
    rw [← Markers.length_run m.dialect.newMarkers hints, ← hrun, Plan.markers, List.length_map]
  have room : m.dialect.markers.HasRoom (twoPow 64) := same ▸ Dialect.hasRoom hd
  rw [Plan.Addressed, hrun]
  refine Markers.nodup_ids (room.mono ?_)
  rw [count, Dialect.newMarkers, Nat.zero_add]
  exact fits

/-- The condition of a lowered statement has the truth of the criteria of its
specification, for every interpretation of the comparisons.  The condition reads
its values in the plan, which has each of its markers once.  A plan is held in
memory, so its length is a 64-bit number. -/
theorem truth_of_lower (builtIn : m.dialect.markers ∈ Dialect.builtIn.map Dialect.markers)
    (h : m.lower spec = .ok (statement, plan)) (fits : plan.length ≤ twoPow 64) :
    plan.Addressed ∧ clauseMarkers statement.condition ⊆ plan.markers ∧
      ∀ I : Interpretation,
        (statement.condition.map fun tree => tree.truth (fun _ => Condition.atomTruth I plan) 0)
          = spec.criteria.truth fun _ => Criterion.truth I m.conversions spec.table := by
  have addressed := addressed_of_lower builtIn h fits
  obtain ⟨position, entries, inside, lowered⟩ := lowers_of_lower h
  refine ⟨addressed, ?_, fun I => ?_⟩
  · rw [markers_of_lowers lowered]
    exact List.map_subset _ inside
  · refine truth_of_lowers ?_ lowered inside 0
    intro _ _ _ _ _ test own
    exact atomTruth_of_lowersTest I addressed test own

/-- An UPDATE that assigns to a column of one name with those it tests, one of them
of another table, where truth values are stored as integers. -/
theorem truth_of_lower_update :
    let m : StatementMapper := ⟨.sqlServer, Dialect.mysql.conversions []⟩
    let spec : Spec := .update {
      table := .unquoted "t"
      assignments := ⟨[(.unquoted "a", .value (.ofValue (.bool true) .boolean))]⟩
      criteria := ⟨[.test .initial ⟨.ofText "u.a", .eq, .single (.bool false)⟩,
        .group .or [.test .initial ⟨.ofText "a", .isIn, .list [.bool true, .null]⟩,
          .test .and ⟨.ofText "b", .notIn, .list []⟩],
        .test .and ⟨.ofText "a", .between, .range (.int 3) (.int 4)⟩]⟩ }
    ∃ statement plan, m.dialect.markers ∈ Dialect.builtIn.map Dialect.markers ∧
      m.lower spec = .ok (statement, plan) ∧ plan.length ≤ twoPow 64 ∧
      plan.map (fun entry => (entry.1.placeholder, entry.2.value))
        = [("@P0_a", some (.tinyInt 1)), ("@P1_a", some (.tinyInt 0)),
          ("@P2_a", some (.tinyInt 1)), ("@P3_a", none), ("@P4_a", some (.int 3)),
          ("@P5_a", some (.int 4))] ∧
      plan.Addressed ∧ clauseMarkers statement.condition ⊆ plan.markers ∧
      ∀ I : Interpretation,
        (statement.condition.map fun tree => tree.truth (fun _ => Condition.atomTruth I plan) 0)
          = spec.criteria.truth fun _ => Criterion.truth I m.conversions spec.table :=
  ⟨_, _, by decide, rfl, by decide, rfl, truth_of_lower (by decide) rfl (by decide)⟩

end StatementMapper

end DataMapper
