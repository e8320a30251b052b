import DataMapper.Proofs.Lowering

/-!
# The markers of a statement and its plan

A driver that binds by position hands the values of the plan to the markers of
the text from left to right.  So the two have to agree in number and in order,
for every statement that can be written.

The markers of a written condition are those of its tree (`Condition.markers_sql`),
and the markers of a lowered condition are those of its entries
(`StatementMapper.markers_of_lowers`).  `Statement.markers` and
`StatementMapper.markers_of_lower` say the same of statements.  They meet in
`StatementMapper.markers_of_map`.
-/

namespace DataMapper

/-! ## Written conditions -/

namespace Sql

/-- Parts that are single markers are these markers. -/
theorem markers_separate_markers (separator : String) (markers : List Marker) :
    Sql.markers (separate separator (markers.map fun marker => [.marker marker])) = markers := by
  rw [markers_separate]
  induction markers with
  | nil => rfl
  | cons marker rest ih =>
      rw [List.map_cons, List.flatMap_cons, ih]
      rfl

end Sql

namespace Condition

/-- The markers of an atomic condition are written in their order. -/
theorem markers_atomSql (d : Dialect) (column : QualifiedColumn) (markers : List Marker)
    (negated : Bool) :
    Sql.markers ((isIn column markers negated).atomSql d) = markers := by
  rw [atomSql, List.cons_append, Sql.markers_text, Sql.markers_append,
    Sql.markers_separate_markers]
  exact List.append_nil markers

theorem sql_nested (d : Dialect) (inner : Condition) :
    (nested inner).sql d = .text "(" :: inner.sql d ++ [.text ")"] := by
  simp [sql, tokens, ConditionToken.sql]

theorem sql_and (d : Dialect) (left right : Condition) :
    (and left right).sql d = left.sql d ++ .text " AND " :: right.sql d := by
  simp [sql, tokens, ConditionToken.sql]

theorem sql_or (d : Dialect) (left right : Condition) :
    (or left right).sql d = left.sql d ++ .text " OR " :: right.sql d := by
  simp [sql, tokens, ConditionToken.sql]

/-- The markers of a written condition are those of the tree, from left to right. -/
theorem markers_sql (d : Dialect) (c : Condition) : (c.sql d).markers = c.markers := by
  induction c with
  | comparison column op marker => rfl
  | unary column op => rfl
  | isIn column markers negated =>
      rw [sql, tokens, List.flatMap_singleton, ConditionToken.sql, markers_atomSql]
      · rfl
      · nofun
      · nofun
      · nofun
  | between column low high => rfl
  | constant sql => rfl
  | nested inner ih =>
      rw [sql_nested, List.cons_append, Sql.markers_text, Sql.markers_append, ih]
      exact List.append_nil _
  | and left right hleft hright =>
      rw [sql_and, Sql.markers_append, Sql.markers_text, hleft, hright]
      rfl
  | or left right hleft hright =>
      rw [sql_or, Sql.markers_append, Sql.markers_text, hleft, hright]
      rfl

end Condition

/-- The markers of a condition, none when there is no condition. -/
def clauseMarkers : Option Condition → List Marker
  | some condition => condition.markers
  | none => []

/-- The markers of a WHERE clause are those of its condition. -/
theorem markers_whereClause (d : Dialect) (condition : Option Condition) :
    (whereClause d condition).markers = clauseMarkers condition := by
  cases condition with
  | none => rfl
  | some condition =>
      rw [whereClause, Sql.markers_text, Condition.markers_sql]
      rfl

/-! ## Written statements -/

/-- The marker of an assignment, if it has one. -/
def AssignedValue.marker? : AssignedValue → Option Marker
  | marker m => some m
  | null => none

/-- The markers of a statement, in the order of its parts. -/
def Statement.markers : Statement → List Marker
  | select s => clauseMarkers s.condition
  | insert s => s.values
  | update s => (s.assignments.filterMap fun a => a.2.marker?) ++ clauseMarkers s.condition
  | delete s => clauseMarkers s.condition

/-- The markers of written assignments are those of the assignments. -/
theorem markers_assignments (d : Dialect) (assignments : List (Identifier × AssignedValue)) :
    Sql.markers (Sql.separate ", " (assignments.map (assignmentSql d)))
      = assignments.filterMap fun a => a.2.marker? := by
  rw [Sql.markers_separate]
  induction assignments with
  | nil => rfl
  | cons assignment rest ih =>
      obtain ⟨column, value⟩ := assignment
      rw [List.map_cons, List.flatMap_cons, ih]
      cases value with
      | marker m => rfl
      | null => rfl

/-- The markers of a written statement are those of the statement, from left to right. -/
theorem Statement.markers_sql {d : Dialect} {s : Statement} {sql : Sql} (h : s.sql d = .ok sql) :
    sql.markers = s.markers := by
  cases s with
  | select s =>
      cases h
      rw [SelectStatement.sql, List.cons_append, Sql.markers_text, Sql.markers_append,
        markers_whereClause]
      exact List.append_nil _
  | insert s =>
      simp only [Statement.sql, InsertStatement.sql] at h
      split at h
      next => cases h
      next =>
        split at h
        next => cases h
        next =>
          cases h
          rw [List.cons_append, Sql.markers_text, Sql.markers_append,
            Sql.markers_separate_markers]
          exact List.append_nil _
  | update s =>
      simp only [Statement.sql, UpdateStatement.sql] at h
      split at h
      next => cases h
      next =>
        cases h
        rw [List.cons_append, Sql.markers_text, Sql.markers_append, markers_assignments,
          markers_whereClause]
        rfl
  | delete s =>
      cases h
      rw [DeleteStatement.sql, Sql.markers_text, markers_whereClause]
      rfl

/-! ## Lowered statements -/

namespace StatementMapper

variable {m : StatementMapper}

/-- The markers of a lowered test are those of its entries. -/
theorem markers_of_lowersTest {table : Identifier} {position : Nat} {c : Criterion}
    {condition : Condition} {entries : Plan}
    (h : LowersTest m table position c condition entries) :
    condition.markers = entries.markers := by
  cases h with
  | unary _ => rfl
  | emptyIn => rfl
  | emptyNotIn => rfl
  | isIn _ _ => rfl
  | notIn _ _ => rfl
  | between _ _ _ _ => rfl
  | comparison _ _ _ => rfl

/-- Joining puts the markers of the new condition behind those before it. -/
theorem markers_joinCondition (before : Option Condition) (join : Join) (condition : Condition) :
    (joinCondition before join condition).markers = clauseMarkers before ++ condition.markers := by
  cases before with
  | none => rfl
  | some before =>
      cases join with
      | initial => rfl
      | and => rfl
      | or => rfl

/-- The markers of a lowered chain are those of its entries. -/
theorem markers_of_lowers {table : Identifier} {position : Nat} {parts : List CriteriaPart}
    {condition : Option Condition} {entries : Plan}
    (h : Lowers m table position parts condition entries) :
    clauseMarkers condition = entries.markers := by
  induction h with
  | nil => rfl
  | test join past htest ih =>
      rw [clauseMarkers, markers_joinCondition, ih, markers_of_lowersTest htest,
        Plan.markers_append]
  | group join past hinner ih ihInner =>
      rw [clauseMarkers, markers_joinCondition, ih, Plan.markers_append, ← ihInner]
      rfl
  | emptyGroup join past hinner ih ihInner =>
      rw [ih, Plan.markers_append, ← ihInner]
      exact (List.append_nil _).symm

/-- The entries of a lowered test are a run. -/
theorem isRun_of_lowersTest {table : Identifier} {position : Nat} {c : Criterion}
    {condition : Condition} {entries : Plan}
    (h : LowersTest m table position c condition entries) :
    entries.IsRun (m.markersAt position) := by
  cases h with
  | unary _ => exact Plan.isRun_nil _
  | emptyIn => exact Plan.isRun_nil _
  | emptyNotIn => exact Plan.isRun_nil _
  | isIn _ hentries => exact isRun_bindOperands hentries
  | notIn _ hentries => exact isRun_bindOperands hentries
  | @between column _ _ _ _ _ _ hlow hhigh =>
      obtain ⟨low, -, rfl⟩ := bindOperand_eq_ok.mp hlow
      obtain ⟨high, -, rfl⟩ := bindOperand_eq_ok.mp hhigh
      exact isRun_cons_marker column.column _
        (isRun_cons_marker column.column _ (Plan.isRun_nil _))
  | @comparison column _ _ _ _ _ hentry =>
      obtain ⟨stored, -, rfl⟩ := bindOperand_eq_ok.mp hentry
      exact isRun_cons_marker column.column _ (Plan.isRun_nil _)

/-- The entries of a lowered chain are a run. -/
theorem isRun_of_lowers {table : Identifier} {position : Nat} {parts : List CriteriaPart}
    {condition : Option Condition} {entries : Plan}
    (h : Lowers m table position parts condition entries) :
    entries.IsRun (m.markersAt position) := by
  induction h with
  | nil => exact Plan.isRun_nil _
  | test join past htest ih => exact Plan.isRun_append ih (isRun_of_lowersTest htest)
  | group join past hinner ih ihInner => exact Plan.isRun_append ih ihInner
  | emptyGroup join past hinner ih ihInner => exact Plan.isRun_append ih ihInner

/-- Lowered assignments have the markers of their entries, which are a run. -/
theorem markers_of_lowerAssignments {position : Nat} {assignments : List (Identifier × Assignment)}
    {assigned : List (Identifier × AssignedValue)} {entries : Plan}
    (h : m.lowerAssignments position assignments = .ok (assigned, entries)) :
    (assigned.filterMap fun a => a.2.marker?) = entries.markers ∧
      entries.IsRun (m.markersAt position) := by
  induction assignments generalizing position assigned entries with
  | nil =>
      cases h
      exact ⟨rfl, Plan.isRun_nil _⟩
  | cons assignment rest ih =>
      obtain ⟨column, value⟩ := assignment
      cases value with
      | null =>
          rw [lowerAssignments] at h
          obtain ⟨⟨others, more⟩, hrest, hresult⟩ := Outcome.bind_eq_ok.mp h
          cases hresult
          rw [List.filterMap_cons]
          exact ih hrest
      | value value =>
          rw [lowerAssignments] at h
          obtain ⟨entry, hentry, h⟩ := Outcome.bind_eq_ok.mp h
          obtain ⟨⟨others, more⟩, hrest, h⟩ := Outcome.bind_eq_ok.mp h
          cases h
          obtain ⟨stored, -, rfl⟩ := bind_eq_ok.mp hentry
          obtain ⟨hmarkers, hrun⟩ := ih hrest
          refine ⟨?_, isRun_cons_marker column _ hrun⟩
          rw [List.filterMap_cons, hmarkers]
          rfl

/-- The statement of a specification, with its plan. -/
def lower (m : StatementMapper) : Spec → Except Error (Statement × Plan)
  | .select s => m.lowerSelect s
  | .insert s => m.lowerInsert s
  | .update s => m.lowerUpdate s
  | .delete s => m.lowerDelete s

/-- A specification is mapped by lowering it and writing the statement. -/
theorem map_eq_lower (m : StatementMapper) (spec : Spec) :
    m.map spec = m.lower spec >>= m.finish := by
  cases spec <;> rfl

/-- A mapped specification was lowered and its statement was written. -/
theorem exists_of_map_eq_ok {spec : Spec} {operation : Operation}
    (h : m.map spec = .ok operation) :
    ∃ statement sql, m.lower spec = .ok (statement, operation.plan) ∧
      statement.sql m.dialect = .ok sql ∧ operation.sql = sql.text := by
  rw [map_eq_lower] at h
  obtain ⟨⟨statement, plan⟩, hlower, h⟩ := Outcome.bind_eq_ok.mp h
  obtain ⟨sql, hsql, rfl⟩ := Outcome.map_eq_ok.mp h
  exact ⟨statement, sql, hlower, hsql, rfl⟩

/-- A lowered specification whose statement is written is mapped. -/
theorem map_of_lower {spec : Spec} {statement : Statement} {plan : Plan} {sql : Sql}
    (h : m.lower spec = .ok (statement, plan)) (written : statement.sql m.dialect = .ok sql) :
    m.map spec = .ok ⟨sql.text, plan⟩ := by
  rw [map_eq_lower, h]
  exact Outcome.map_eq_ok.mpr ⟨sql, written, rfl⟩

/-- A lowered statement has the markers of its plan, which are a run from the first one. -/
theorem markers_of_lower {spec : Spec} {statement : Statement} {plan : Plan}
    (h : m.lower spec = .ok (statement, plan)) :
    statement.markers = plan.markers ∧ plan.IsRun m.dialect.newMarkers := by
  cases spec with
  | select s =>
      obtain ⟨⟨condition, entries⟩, hcriteria, h⟩ := Outcome.bind_eq_ok.mp h
      cases h
      have lowered := lowers_of_eq_ok hcriteria
      exact ⟨markers_of_lowers lowered, isRun_of_lowers lowered⟩
  | insert s =>
      obtain ⟨entries, hrow, h⟩ := Outcome.bind_eq_ok.mp h
      cases h
      exact ⟨rfl, isRun_bindRow hrow⟩
  | update s =>
      obtain ⟨⟨assigned, entries⟩, hassigned, h⟩ := Outcome.bind_eq_ok.mp h
      obtain ⟨⟨condition, more⟩, hcriteria, h⟩ := Outcome.bind_eq_ok.mp h
      cases h
      obtain ⟨hmarkers, hrun⟩ := markers_of_lowerAssignments hassigned
      have lowered := lowers_of_eq_ok hcriteria
      have later : more.IsRun ((m.markersAt 0).after entries.length) := by
        rw [markersAt_after, Nat.zero_add]
        exact isRun_of_lowers lowered
      refine ⟨?_, Plan.isRun_append hrun later⟩
      rw [Plan.markers_append, ← hmarkers, ← markers_of_lowers lowered]
      rfl
  | delete s =>
      obtain ⟨⟨condition, entries⟩, hcriteria, h⟩ := Outcome.bind_eq_ok.mp h
      cases h
      have lowered := lowers_of_eq_ok hcriteria
      exact ⟨markers_of_lowers lowered, isRun_of_lowers lowered⟩

/-- The markers of a mapped statement, read in its text from left to right, are
those of its plan in order.  Where markers bind by position, the entry at a
place of the plan has that place as its address. -/
theorem markers_of_map {spec : Spec} {operation : Operation} (h : m.map spec = .ok operation) :
    ∃ statement sql, m.lower spec = .ok (statement, operation.plan) ∧
      statement.sql m.dialect = .ok sql ∧ operation.sql = sql.text ∧
      sql.markers = operation.plan.markers ∧
      (m.dialect.markers.isNamed = false →
        ∀ (k : Nat) (entry : Marker × Settable), operation.plan[k]? = some entry →
          entry.1.id = .index k) := by
  obtain ⟨statement, sql, hlower, hsql, htext⟩ := exists_of_map_eq_ok h
  obtain ⟨hmarkers, hints, hrun⟩ := markers_of_lower hlower
  refine ⟨statement, sql, hlower, hsql, htext, ?_, ?_⟩
  · rw [Statement.markers_sql hsql]
    exact hmarkers
  · intro positional k entry hk
    have place : operation.plan.markers[k]? = some entry.1 := by
      rw [Plan.markers, List.getElem?_map, hk]
      rfl
    rw [hrun, Markers.getElem?_run, Option.map_eq_some_iff] at place
    obtain ⟨hint, -, hmarker⟩ := place
    have address := MarkerFactory.id_eq_index positional (0 + k) hint
    rw [Nat.zero_add] at address
    rw [← hmarker, Dialect.newMarkers, Nat.zero_add]
    exact address

/-- An UPDATE with anonymous markers, in which a group, a list, a range, a word
NULL and a constant lie between the markers. -/
theorem markers_of_map_update :
    let m := ofDialect .mysql
    let spec : Spec := .update {
      table := .unquoted "t"
      assignments := ⟨[(.unquoted "a", .value (.ofValue (.bool true) .boolean)),
        (.unquoted "b", .null), (.unquoted "c", .value (.empty .text))]⟩
      criteria := ⟨[.test .initial ⟨.ofText "d", .isIn, .list [.int 1, .int 2]⟩,
        .group .or [.test .initial ⟨.ofText "e", .between, .range (.int 3) (.int 4)⟩,
          .test .and ⟨.ofText "f", .notIn, .list []⟩]]⟩ }
    ∃ operation, m.map spec = .ok operation ∧
      operation.sql = "UPDATE t SET a = ?, b = NULL, c = ?"
        ++ " WHERE t.d IN (?, ?) OR (t.e BETWEEN ? AND ? AND 1 = 1)" ∧
      ∃ statement sql, m.lower spec = .ok (statement, operation.plan) ∧
        statement.sql m.dialect = .ok sql ∧ operation.sql = sql.text ∧
        sql.markers = operation.plan.markers ∧
        (m.dialect.markers.isNamed = false →
          ∀ (k : Nat) (entry : Marker × Settable), operation.plan[k]? = some entry →
            entry.1.id = .index k) :=
  ⟨_, rfl, rfl, markers_of_map rfl⟩

end StatementMapper

end DataMapper
