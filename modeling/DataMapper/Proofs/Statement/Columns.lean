import DataMapper.Proofs.Identifier
import DataMapper.Proofs.Statement.OutboundRow

/-!
# The columns of a row in a statement

A row keeps its columns apart by equivalence of identifiers, which is the same for
every dialect.  A statement has the columns as the dialect writes them.  So a row
may have two columns that are one column to the store, and then no put has replaced
the value of the first by that of the second.

`InsertStatement.text_of_sql` and `UpdateStatement.text_of_sql` take the text of a
statement apart.  `StatementMapper.columns_of_map` says which columns an insertion
and an update of a row have, and when they differ from each other.
-/

namespace DataMapper

/-! ## Written lists -/

namespace Sql

/-- The text of separated parts is that of the parts, separated. -/
theorem text_separate (separator : String) (parts : List Sql) :
    (separate separator parts).text = String.intercalate separator (parts.map text) := by
  induction parts with
  | nil => rfl
  | cons part rest ih =>
      cases rest with
      | nil => rw [List.map_singleton, String.intercalate_singleton, separate]
      | cons next rest =>
          rw [separate, text_append, text, ih]
          · simp only [List.map_cons, String.intercalate_cons_cons, Fragment.render,
              String.append_assoc]
          · exact List.cons_ne_nil next rest

/-- Separated markers are written as their placeholders. -/
theorem text_separate_markers (separator : String) (markers : List Marker) :
    (separate separator (markers.map fun marker => [.marker marker])).text
      = String.intercalate separator (markers.map Marker.placeholder) := by
  rw [text_separate, List.map_map]
  congr 1
  refine List.map_congr_left fun marker _ => ?_
  exact String.append_empty

end Sql

/-- The text of an insertion. -/
theorem InsertStatement.text_of_sql {d : Dialect} {s : InsertStatement} {sql : Sql}
    (h : s.sql d = .ok sql) :
    sql.text = "INSERT INTO " ++ d.toSql s.table ++ " (" ++ commaSeparated (s.columns.map d.toSql)
      ++ ") VALUES (" ++ commaSeparated (s.values.map Marker.placeholder) ++ ")" := by
  rw [InsertStatement.sql] at h
  split at h
  next => cases h
  next =>
    split at h
    next => cases h
    next =>
      cases h
      rw [List.cons_append, Sql.text, Sql.text_append, Sql.text_separate_markers]
      simp only [Fragment.render, Sql.text, commaSeparated, String.append_assoc,
        String.append_empty]

/-- The text of an update. -/
theorem UpdateStatement.text_of_sql {d : Dialect} {s : UpdateStatement} {sql : Sql}
    (h : s.sql d = .ok sql) :
    sql.text = "UPDATE " ++ d.toSql s.table ++ " SET "
      ++ commaSeparated (s.assignments.map fun a => (assignmentSql d a).text)
      ++ (whereClause d s.condition).text := by
  simp only [UpdateStatement.sql] at h
  split at h
  next => cases h
  next =>
    cases h
    rw [List.cons_append, Sql.text, Sql.text_append, Sql.text_separate, List.map_map]
    simp only [Fragment.render, commaSeparated, String.append_assoc]
    rfl

/-! ## Rows -/

namespace OutboundRow

/-- Puts keep the columns apart. -/
theorem distinct_ofEntries (entries : List (Identifier × Settable)) :
    (ofEntries entries).Distinct := by
  have step (row : OutboundRow) (distinct : row.Distinct) :
      (entries.foldl (fun row entry => row.put entry.1 entry.2) row).Distinct := by
    induction entries generalizing row with
    | nil => exact distinct
    | cons entry rest ih => exact ih _ (distinct.put entry.1 entry.2)
  exact step .empty .nil

/-- The columns of a row are written differently exactly when no two of them
collide. -/
theorem nodup_columns_iff {row : OutboundRow} (distinct : row.Distinct) (d : Dialect) :
    (row.columns.map d.toSql).Nodup ↔
      row.columns.Pairwise fun a b => ¬ d.identifiers.Collides a b := by
  rw [List.Nodup, List.pairwise_map]
  constructor
  · exact List.Pairwise.imp₂
      (fun a b apart differ => mt (Identifier.toSql_eq_iff apart).mpr differ) distinct
  · exact List.Pairwise.imp₂
      (fun a b apart differ => mt (Identifier.toSql_eq_iff apart).mp differ) distinct

end OutboundRow

namespace StatementMapper

variable {m : StatementMapper}

/-- The values of a row are assigned in order, each to its column and as the marker
that the plan has for it, whatever entries the criteria add behind. -/
theorem texts_of_lowerAssignments {position : Nat} {entries : List (Identifier × Settable)}
    {assigned : List (Identifier × AssignedValue)} {plan : Plan}
    (h : m.lowerAssignments position (entries.map fun entry => (entry.1, .value entry.2))
      = .ok (assigned, plan)) (more : Plan) :
    assigned.map (fun a => (assignmentSql m.dialect a).text)
      = List.zipWith (fun column marker => column ++ " = " ++ marker.placeholder)
        (entries.map fun entry => m.dialect.toSql entry.1) (plan ++ more).markers := by
  induction entries generalizing position assigned plan with
  | nil =>
      cases h
      rfl
  | cons entry rest ih =>
      rw [List.map_cons, lowerAssignments] at h
      obtain ⟨first, hfirst, h⟩ := Outcome.bind_eq_ok.mp h
      obtain ⟨⟨others, later⟩, hothers, h⟩ := Outcome.bind_eq_ok.mp h
      cases h
      rw [List.map_cons, ih hothers, List.map_cons]
      refine congrArg (· :: _) ?_
      simp only [assignmentSql, Sql.text, Fragment.render, String.append_empty]

/-- The text of an insertion has the columns of the row and the markers of the plan. -/
theorem sql_of_mapInsert {spec : InsertSpec} {operation : Operation}
    (h : m.mapInsert spec = .ok operation) :
    operation.sql = "INSERT INTO " ++ m.dialect.toSql spec.table ++ " ("
      ++ commaSeparated (spec.row.columns.map m.dialect.toSql) ++ ") VALUES ("
      ++ commaSeparated (operation.plan.markers.map Marker.placeholder) ++ ")" := by
  obtain ⟨lowered, hlower, h⟩ := Outcome.bind_eq_ok.mp h
  obtain ⟨plan, hplan, hlower⟩ := Outcome.bind_eq_ok.mp hlower
  cases hlower
  obtain ⟨sql, hsql, rfl⟩ := Outcome.map_eq_ok.mp h
  exact (InsertStatement.text_of_sql hsql :)

/-- The text of an update by a row has the columns of the row and, for each, the
marker of the plan. -/
theorem sql_of_mapUpdate_ofRow {table : Identifier} {row : OutboundRow}
    (distinct : row.Distinct) {criteria : Criteria} {operation : Operation}
    (h : m.mapUpdate ⟨table, .ofRow row, criteria⟩ = .ok operation) :
    ∃ condition, operation.sql = "UPDATE " ++ m.dialect.toSql table ++ " SET "
      ++ commaSeparated (List.zipWith (fun column marker => column ++ " = " ++ marker.placeholder)
        (row.columns.map m.dialect.toSql) operation.plan.markers)
      ++ (whereClause m.dialect condition).text := by
  obtain ⟨lowered, hlower, h⟩ := Outcome.bind_eq_ok.mp h
  obtain ⟨⟨assigned, plan⟩, hassigned, hlower⟩ := Outcome.bind_eq_ok.mp hlower
  obtain ⟨⟨condition, more⟩, hcondition, hlower⟩ := Outcome.bind_eq_ok.mp hlower
  cases hlower
  obtain ⟨sql, hsql, rfl⟩ := Outcome.map_eq_ok.mp h
  rw [Assignments.entries_ofRow distinct] at hassigned
  have written := UpdateStatement.text_of_sql hsql
  rw [texts_of_lowerAssignments hassigned more] at written
  refine ⟨condition, ?_⟩
  rw [OutboundRow.columns, List.map_map]
  exact written

/-- An insertion of a row that was filled by puts has the columns of the row as the
dialect writes them, and so has an update by it.  They differ from each other exactly
when no two columns of the row collide. -/
theorem columns_of_map (m : StatementMapper) (entries : List (Identifier × Settable))
    (table : Identifier) (criteria : Criteria) :
    let row := OutboundRow.ofEntries entries
    let columns := row.columns.map m.dialect.toSql
    (∀ insertion, m.mapInsert ⟨table, row⟩ = .ok insertion →
      insertion.sql = "INSERT INTO " ++ m.dialect.toSql table ++ " (" ++ commaSeparated columns
        ++ ") VALUES (" ++ commaSeparated (insertion.plan.markers.map Marker.placeholder)
        ++ ")") ∧
    (∀ update, m.mapUpdate ⟨table, .ofRow row, criteria⟩ = .ok update →
      ∃ condition, update.sql = "UPDATE " ++ m.dialect.toSql table ++ " SET "
        ++ commaSeparated (List.zipWith
          (fun column marker => column ++ " = " ++ marker.placeholder)
          columns update.plan.markers)
        ++ (whereClause m.dialect condition).text) ∧
    (columns.Nodup ↔
      row.columns.Pairwise fun a b => ¬ m.dialect.identifiers.Collides a b) := by
  intro row columns
  have distinct : row.Distinct := OutboundRow.distinct_ofEntries entries
  refine ⟨fun insertion h => ?_, fun update h => ?_, ?_⟩
  · exact (sql_of_mapInsert h :)
  · exact sql_of_mapUpdate_ofRow distinct h
  · exact OutboundRow.nodup_columns_iff distinct m.dialect

/-- Where letter case is kept, quoted columns that differ in it are written differently. -/
theorem columns_of_map_quoted :
    let m := StatementMapper.ofDialect .mysql
    let entries : List (Identifier × Settable) :=
      [(.ofQuoted "Id", .ofValue (.int 1) .integer), (.ofQuoted "ID", .ofValue (.int 2) .integer),
        (.unquoted "id", .ofValue (.int 3) .integer)]
    let row := OutboundRow.ofEntries entries
    ∃ insertion update,
      m.mapInsert ⟨.unquoted "t", row⟩ = .ok insertion ∧
      m.mapUpdate ⟨.unquoted "t", .ofRow row, .empty⟩ = .ok update ∧
      insertion.sql = "INSERT INTO t (\x60Id\x60, \x60ID\x60, id) VALUES (?, ?, ?)" ∧
      update.sql = "UPDATE t SET \x60Id\x60 = ?, \x60ID\x60 = ?, id = ?" ∧
      (row.columns.map m.dialect.toSql).Nodup := by
  intro m entries row
  obtain ⟨inserted, -, apart⟩ := columns_of_map m entries (.unquoted "t") .empty
  refine ⟨_, _, rfl, rfl, (inserted _ rfl).trans ?_, ?_, apart.mpr (by decide)⟩
  · decide +kernel
  · decide +kernel

/-- Where it is folded, they are not. -/
theorem columns_of_map_folded :
    let m := StatementMapper.ofDialect .postgres
    let row := OutboundRow.ofEntries [(.ofQuoted "Name", .ofValue (.int 1) .integer),
      (.ofQuoted "NAME", .ofValue (.int 2) .integer)]
    ∃ insertion update,
      m.mapInsert ⟨.unquoted "t", row⟩ = .ok insertion ∧
      m.mapUpdate ⟨.unquoted "t", .ofRow row, .empty⟩ = .ok update ∧
      insertion.sql = "INSERT INTO t (\"name\", \"name\") VALUES ($1, $2)" ∧
      update.sql = "UPDATE t SET \"name\" = $1, \"name\" = $2" ∧
      row.Distinct ∧ ¬ (row.columns.map m.dialect.toSql).Nodup := by
  intro m row
  refine ⟨_, _, rfl, rfl, ?_, ?_, OutboundRow.distinct_ofEntries _, ?_⟩
  · decide +kernel
  · decide +kernel
  · decide +kernel

end StatementMapper

end DataMapper
