import DataMapper.Proofs.Statement.Refusal
import Mathlib.Data.List.Forall2

/-!
# What columns are compared with

A column is compared with a marker alone by an operator that takes one value, and with two
markers as the ends of a range.  A list is another matter, for the NULL may be in it.
`Condition.compared` tells these markers from others in the order of the text, and
`Statement.comparedEntries` gives their entries of a plan.

A mapper refuses the NULL in these places, as it is in the criteria.  What it binds there is
what the converters write for the values (`StatementMapper.compares_of_lower`).  So a mapped
specification never has the NULL for such a value, but it binds the empty value where the
converters write the NULL for another one.  The text then compares a column with the NULL, which
holds of no row, and nothing was refused.

A registry that writes the NULL for no other value keeps a mapper from this, and no other
registry does (`StatementMapper.comparesNull_iff`).  The registries of the built-in dialects
are such (`Dialect.not_writesNull`).
-/

namespace DataMapper

/-! ## Compared markers -/

/-- For each marker of a condition, from left to right, whether a column is compared with it
alone or as with an end of a range. -/
def Condition.compared : Condition → List Bool
  | comparison _ _ _ => [true]
  | unary _ _ | constant _ => []
  | isIn _ markers _ => markers.map fun _ => false
  | between _ _ _ => [true, true]
  | nested inner => inner.compared
  | and left right | or left right => left.compared ++ right.compared

theorem Condition.length_compared (c : Condition) : c.compared.length = c.markers.length := by
  induction c with
  | isIn column markers negated => exact List.length_map _
  | nested inner ih => exact ih
  | and left right ihLeft ihRight | or left right ihLeft ihRight =>
      rw [compared, markers, List.length_append, List.length_append, ihLeft, ihRight]
  | _ => rfl

/-- The compared markers of a condition are those of its atomic conditions. -/
theorem Condition.compared_eq (c : Condition) : c.compared = c.atoms.flatMap compared := by
  induction c with
  | nested inner ih => exact ih
  | and left right ihLeft ihRight | or left right ihLeft ihRight =>
      rw [compared, atoms, List.flatMap_append, ihLeft, ihRight]
  | _ => exact (List.append_nil _).symm

/-- For each marker of a statement, from left to right, whether its condition compares a column
with it.  The markers of the condition come last. -/
def Statement.compared (s : Statement) : List Bool :=
  (s.unrestricted.markers.map fun _ => false)
    ++ (clauseAtoms s.condition).flatMap Condition.compared

/-- The elements of a list that have a flag. -/
def flagged {α : Type} (flags : List Bool) (xs : List α) : List α :=
  ((flags.zip xs).filter Prod.fst).map Prod.snd

theorem flagged_append {α : Type} {flags : List Bool} {xs : List α}
    (same : flags.length = xs.length) (more : List Bool) (rest : List α) :
    flagged (flags ++ more) (xs ++ rest) = flagged flags xs ++ flagged more rest := by
  rw [flagged, List.zip_append same, List.filter_append, List.map_append]
  rfl

theorem flagged_false {α β : Type} (ys : List β) (xs : List α) :
    flagged (ys.map fun _ => false) xs = [] := by
  rw [flagged, List.map_eq_nil_iff, List.filter_eq_nil_iff]
  rintro ⟨flag, x⟩ mem
  obtain ⟨_, -, rfl⟩ := List.mem_map.mp (List.of_mem_zip mem).1
  exact Bool.false_ne_true

/-- The entries of a plan for the values that a statement compares its columns with. -/
def Statement.comparedEntries (s : Statement) (plan : Plan) : Plan := flagged s.compared plan

/-- The values that a test compares its column with alone or as the ends of a range. -/
def Criterion.comparedValues (c : Criterion) : List Value :=
  if c.comparator.isUnary then []
  else match c.operand with
    | .single value => [value]
    | .range low high => [low, high]
    | _ => []

/-- The statement has the markers of its condition behind those it has without. -/
theorem Statement.markers_eq (s : Statement) :
    s.markers = s.unrestricted.markers ++ clauseMarkers s.condition := by
  cases s with
  | select s => rfl
  | insert s => exact (List.append_nil _).symm
  | update s => exact congrArg (· ++ clauseMarkers s.condition) (List.append_nil _).symm
  | delete s => rfl

/-- There is a flag for each marker of a statement. -/
theorem Statement.length_compared (s : Statement) : s.compared.length = s.markers.length := by
  have clause : ((clauseAtoms s.condition).flatMap Condition.compared).length
      = (clauseMarkers s.condition).length := by
    cases s.condition with
    | none => rfl
    | some condition => rw [clauseAtoms, ← condition.compared_eq, condition.length_compared]; rfl
  rw [compared, s.markers_eq, List.length_append, List.length_append, List.length_map, clause]

namespace StatementMapper

variable {m : StatementMapper} {table : Identifier} {position : Nat}

/-! ## What is bound for compared values -/

/-- Whether an entry binds what the converters write for a value that is not the NULL, typed by
what is written. -/
def Compares (m : StatementMapper) (value : Value) (entry : Marker × Settable) : Prop :=
  value ≠ .null ∧ ∃ stored, m.conversions.writeValue value = .ok stored ∧
    entry.2 = .ofValue stored (stored.sqlType?.getD .text)

/-- Such an entry is empty when the NULL is written. -/
theorem Compares.isEmpty_iff {value : Value} {entry : Marker × Settable}
    (h : m.Compares value entry) :
    entry.2.isEmpty = true ↔ m.conversions.writeValue value = .ok .null := by
  obtain ⟨-, stored, written, bound⟩ := h
  rw [written, bound, Except.ok.injEq]
  cases stored <;> simp [Settable.isEmpty, Settable.ofValue, Value.present?]

theorem compares_of_bindOperand {column : Identifier} {value : Value} {entry : Marker × Settable}
    (here : value.isNull = false) (h : m.bindOperand position column value = .ok entry) :
    m.Compares value entry := by
  obtain ⟨stored, written, rfl⟩ := bindOperand_eq_ok.mp h
  refine ⟨?_, stored, written, rfl⟩
  rintro rfl
  cases here

/-- A test binds what it compares its column with. -/
theorem compares_of_lowersTest {c : Criterion} {atom : Condition} {entries : Plan}
    (h : LowersTest m table position c atom entries) :
    List.Forall₂ m.Compares c.comparedValues (flagged atom.compared entries) := by
  cases h with
  | unary unary =>
      rw [Criterion.comparedValues, if_pos unary]
      exact .nil
  | emptyIn => exact .nil
  | emptyNotIn => exact .nil
  | isIn _ _ =>
      rw [Condition.compared, flagged_false]
      exact .nil
  | notIn _ _ =>
      rw [Condition.compared, flagged_false]
      exact .nil
  | between lowHere highHere hlow hhigh =>
      exact .cons (compares_of_bindOperand lowHere hlow)
        (.cons (compares_of_bindOperand highHere hhigh) .nil)
  | comparison binary here hentry =>
      rw [Criterion.comparedValues, if_neg (by simp [binary])]
      exact .cons (compares_of_bindOperand here hentry) .nil

/-- Tests one after the other bind what they compare their columns with. -/
theorem compares_of_lowersTests {tests : List Criterion} {atoms : List Condition} {entries : Plan}
    (h : LowersTests m table position tests atoms entries) :
    List.Forall₂ m.Compares (tests.flatMap Criterion.comparedValues)
      (flagged (atoms.flatMap Condition.compared) entries) := by
  induction h with
  | nil => exact .nil
  | @cons position c tests atom atoms entries more first rest ih =>
      have same : atom.compared.length = entries.length := by
        rw [atom.length_compared, markers_of_lowersTest first, Plan.markers, List.length_map]
      rw [List.flatMap_cons, List.flatMap_cons, flagged_append same]
      exact List.rel_append (compares_of_lowersTest first) ih

/-- A lowered specification binds what its criteria compare columns with, in order. -/
theorem compares_of_lower {spec : Spec} {statement : Statement} {plan : Plan}
    (h : m.lower spec = .ok (statement, plan)) :
    List.Forall₂ m.Compares (spec.criteria.tests.flatMap Criterion.comparedValues)
      (statement.comparedEntries plan) := by
  obtain ⟨before, entries, rfl, bare, chain⟩ := lower_unrestricted h
  have same : (statement.unrestricted.markers.map fun _ => false).length = before.length := by
    rw [List.length_map, (markers_of_lower bare).1, Plan.markers, List.length_map]
  rw [Statement.comparedEntries, Statement.compared, flagged_append same, flagged_false]
  exact compares_of_lowersTests (lowersTests_of_lowers chain)

/-! ## Empty values that are compared -/

/-- Whether a mapper maps a specification with built criteria to a statement that compares a
column with an empty value. -/
def ComparesNull (m : StatementMapper) : Prop :=
  ∃ spec statement operation, spec.criteria.Built ∧ m.map spec = .ok operation ∧
    m.lower spec = .ok (statement, operation.plan) ∧
    ∃ entry ∈ statement.comparedEntries operation.plan, entry.2.isEmpty = true

end StatementMapper

/-- Whether a registry writes the NULL for another value. -/
def Conversions.WritesNull (c : Conversions) : Prop :=
  ∃ value, value ≠ .null ∧ c.writeValue value = .ok .null

/-- An array is never written as the NULL. -/
theorem Conversions.WritesNull.exists_leaf {c : Conversions} (h : c.WritesNull) :
    ∃ value, value ≠ .null ∧ c.writeLeaf value = .ok .null := by
  obtain ⟨value, here, written⟩ := h
  cases value with
  | null => exact absurd rfl here
  | array items =>
      obtain ⟨_, -, stored⟩ := Outcome.map_eq_ok.mp written
      cases stored
  | _ => exact ⟨_, here, written⟩

namespace StatementMapper

variable {m : StatementMapper}

/-- A DELETE with one test against a value becomes a comparison with what is written for it. -/
theorem lower_delete_single {comparator : Comparator} (binary : comparator.isUnary = false)
    {value stored : Value} (here : value.isNull = false)
    (written : m.conversions.writeValue value = .ok stored) (table : Identifier)
    (column : ColumnRef) :
    m.lower (.delete ⟨table, Criteria.empty.addTest .and ⟨column, comparator, .single value⟩⟩)
      = .ok (.delete ⟨table, some (.comparison (qualify table column) comparator.text
            (m.marker 0 column.column))⟩,
          [(m.marker 0 column.column, .ofValue stored (stored.sqlType?.getD .text))]) := by
  have bound : m.bindOperand 0 column.column value
      = .ok (m.marker 0 column.column, .ofValue stored (stored.sqlType?.getD .text)) :=
    bindOperand_eq_ok.mpr ⟨stored, written, rfl⟩
  have test : m.lowerTest table 0 ⟨column, comparator, .single value⟩ = _ :=
    lowerTest_single 0 column binary value
  rw [here, bound] at test
  have part : m.lowerPart table 0 (.test .initial ⟨column, comparator, .single value⟩) = _ :=
    Outcome.bind_eq_ok.mpr ⟨_, test, rfl⟩
  have chain : m.lowerCriteria table 0
      (Criteria.empty.addTest .and ⟨column, comparator, .single value⟩) = _ :=
    Outcome.bind_eq_ok.mpr ⟨_, part, rfl⟩
  exact Outcome.bind_eq_ok.mpr ⟨_, chain, rfl⟩

/-- A test against a value that is written as the NULL is mapped, for the value itself passes
the check. -/
theorem comparesNull_of_writeValue {value : Value} (here : value ≠ .null)
    (written : m.conversions.writeValue value = .ok .null) : m.ComparesNull := by
  have null : value.isNull = false := by cases value <;> first | rfl | exact absurd rfl here
  have binary : Comparator.lt.isUnary = false := rfl
  have lowered := lower_delete_single binary null written (.unquoted "t")
    (.ofIdentifier (.unquoted "a"))
  refine ⟨_, _, _, ?_, map_of_lower lowered rfl, lowered, _, List.mem_singleton_self _, rfl⟩
  exact .addTest .empty .and nofun (.single _ .lt value (by decide))

/-- A mapper compares a column with an empty value exactly when its registry writes the NULL
for another value. -/
theorem comparesNull_iff (m : StatementMapper) : m.ComparesNull ↔ m.conversions.WritesNull := by
  constructor
  · rintro ⟨spec, statement, operation, -, -, lowered, entry, mem, empty⟩
    obtain ⟨same, each⟩ := List.forall₂_iff_get.mp (compares_of_lower lowered)
    obtain ⟨k, rfl⟩ := List.get_of_mem mem
    have compares := each k (Nat.lt_of_lt_of_eq k.isLt same.symm) k.isLt
    exact ⟨_, compares.1, compares.isEmpty_iff.mp empty⟩
  · rintro ⟨value, here, written⟩
    exact comparesNull_of_writeValue here written

end StatementMapper

/-- The registry of a built-in dialect writes the NULL for no other value. -/
theorem Dialect.not_writesNull {d : Dialect} (known : d ∈ builtIn) :
    ¬ (d.conversions []).WritesNull := by
  intro writes
  obtain ⟨value, here, written⟩ := writes.exists_leaf
  rcases conversions_of_builtIn known with registry | registry
  · rw [registry] at written
    cases value <;> first | exact here rfl | cases written
  · rw [registry] at written
    cases value <;> first | exact here rfl | cases written

namespace StatementMapper

/-- A mapped statement has an entry of the plan for each marker, and what it compares columns
with is what the converters write for values that are not the NULL.  A mapper compares a column
with an empty value for some specification exactly when its registry writes the NULL for another
value.  One with the registry of a built-in dialect and no converters of a user never does. -/
theorem compared_of_map (m : StatementMapper) :
    (∀ (spec : Spec) (operation : Operation), m.map spec = .ok operation →
        ∃ statement sql, m.lower spec = .ok (statement, operation.plan) ∧
          statement.sql m.dialect = .ok sql ∧ operation.sql = sql.text ∧
          sql.markers = operation.plan.markers ∧
          statement.compared.length = operation.plan.length ∧
          List.Forall₂ m.Compares (spec.criteria.tests.flatMap Criterion.comparedValues)
            (statement.comparedEntries operation.plan)) ∧
      (m.ComparesNull ↔ m.conversions.WritesNull) ∧
      ∀ d ∈ Dialect.builtIn, m.conversions = d.conversions [] → ¬ m.ComparesNull := by
  refine ⟨fun spec operation mapped => ?_, m.comparesNull_iff, fun d known registry => ?_⟩
  · obtain ⟨statement, sql, lowered, written, text⟩ := exists_of_map_eq_ok mapped
    have markers : statement.markers = operation.plan.markers := (markers_of_lower lowered).1
    refine ⟨statement, sql, lowered, written, text, ?_, ?_, compares_of_lower lowered⟩
    · rw [Statement.markers_sql written, markers]
    · rw [statement.length_compared, markers, Plan.markers, List.length_map]
  · rw [m.comparesNull_iff, registry]
    exact Dialect.not_writesNull known

/-- A DELETE with a list and a range, where a word is written as the NULL. -/
theorem compared_of_map_range :
    let converter : Converter := .ofTables "none" [(.text "none", .ok .null)] []
    let m : StatementMapper := ⟨.mysql, Dialect.mysql.conversions [converter]⟩
    let spec : Spec := .delete ⟨.unquoted "t", (Criteria.empty.addTest .and
      ⟨.ofText "a", .isIn, .list [.null, .text "none"]⟩).addTest .or
      ⟨.ofText "b", .between, .range (.bool true) (.text "none")⟩⟩
    ∃ operation, m.map spec = .ok operation ∧
      operation.sql = "DELETE FROM t WHERE t.a IN (?, ?) OR t.b BETWEEN ? AND ?" ∧
      m.ComparesNull ∧
      ∃ statement, m.lower spec = .ok (statement, operation.plan) ∧
        statement.compared = [false, false, true, true] ∧
        List.Forall₂ m.Compares [.bool true, .text "none"]
          (statement.comparedEntries operation.plan) := by
  intro converter m spec
  obtain ⟨statement, sql, lowered, -, -, -, -, compares⟩ := (compared_of_map m).1 spec _ rfl
  cases lowered
  have nullFor : m.conversions.WritesNull := ⟨.text "none", nofun, rfl⟩
  exact ⟨_, rfl, rfl, (compared_of_map m).2.1.mpr nullFor, _, rfl, rfl, compares⟩

/-- A SELECT in which a column is compared with the empty value, for a word is written as the
NULL.  The same test against the NULL itself is refused. -/
theorem compared_of_map_word :
    let converter : Converter := .ofTables "none" [(.text "none", .ok .null)] []
    let m : StatementMapper := ⟨.postgres, Dialect.postgres.conversions [converter]⟩
    let spec (value : Value) : Spec := .select {
      table := .unquoted "t"
      criteria := Criteria.empty.addTest .and (.ofSingle (.ofText "a") .lt value) }
    (∀ value, (spec value).criteria.Built) ∧
      m.map (spec .null) = .error (nullOperand (.ofText "a") .lt) ∧
      ∃ statement operation, m.map (spec (.text "none")) = .ok operation ∧
        m.lower (spec (.text "none")) = .ok (statement, operation.plan) ∧
        operation.sql = "SELECT t.* FROM t WHERE t.a < $1" ∧
        statement.comparedEntries operation.plan = [(⟨"$1", .index 0⟩, .empty .text)] := by
  intro converter m spec
  refine ⟨fun value => ?_, rfl, _, _, rfl, rfl, rfl, rfl⟩
  exact .addTest .empty .and nofun (.single _ .lt value (by decide))

end StatementMapper

end DataMapper
