import DataMapper.Proofs.OutboundRow.Edits
import DataMapper.Proofs.Statement.OutboundRow
import DataMapper.Proofs.Statement.Refusal

/-!
# Rows that are inserted and rows that are set

An insertion goes over the entries of a row.  An update goes over assignments, which are made
from the row by putting its values one after the other.  Where the columns of the row are apart,
no put replaces another, and the two bind the row in the same way
(`StatementMapper.lowerUpdate_ofRow`): the values get the same markers, the columns stand in the
same order, and each is set to the marker under which it is inserted.  The criteria come behind.

Edits keep the columns of a row apart, so this holds of every row that was made by edits
(`StatementMapper.sharesRow_of_map`).
-/

namespace DataMapper

/-- Whether an insertion and an update handle a row alike.  The same columns are set in the same
order, each to the marker under which it is inserted and none to the word NULL, and the plan of
the insertion comes first in the plan of the update. -/
structure SharesRow (into : InsertStatement) (update : UpdateStatement)
    (inserted updated : Plan) : Prop where
  columns : update.assignments.map (·.1) = into.columns
  markers : update.assignments.map (·.2) = into.values.map .marker
  bound : ∀ assignment ∈ update.assignments, assignment.2 ≠ .null
  front : inserted <+: updated

namespace StatementMapper

variable {m : StatementMapper} {table : Identifier} {row : OutboundRow} {criteria : Criteria}

/-- Whether a mapper lowers a specification to a statement and writes this as an operation. -/
structure MapsThrough (m : StatementMapper) (spec : Spec) (statement : Statement)
    (operation : Operation) : Prop where
  lowered : m.lower spec = .ok (statement, operation.plan)
  written : ∃ sql, statement.sql m.dialect = .ok sql ∧ operation.sql = sql.text

/-! ## Lowered rows -/

theorem lowerInsert_eq (m : StatementMapper) (table : Identifier) (row : OutboundRow) :
    m.lowerInsert ⟨table, row⟩ =
      (m.bindRow 0 row.entries).map fun plan =>
        (.insert ⟨table, row.columns, plan.markers⟩, plan) := by
  rw [lowerInsert]
  cases m.bindRow 0 row.entries <;> rfl

/-- An update by a row binds the row and then the criteria. -/
theorem lowerUpdate_ofRow (distinct : row.Distinct) (table : Identifier) (criteria : Criteria) :
    m.lowerUpdate ⟨table, .ofRow row, criteria⟩ =
      m.bindRow 0 row.entries >>= fun plan =>
        (m.lowerCriteria table plan.length criteria).map fun lowered =>
          (.update ⟨table, row.columns.zip (plan.markers.map .marker), lowered.1⟩,
            plan ++ lowered.2) := by
  rw [lowerUpdate, Assignments.entries_ofRow distinct, lowerAssignments_values]
  cases m.bindRow 0 row.entries with
  | error e => rfl
  | ok plan =>
      simp only [Except.map]
      cases m.lowerCriteria table plan.length criteria <;> rfl

/-- The columns of a row are as many as the entries that are bound for it. -/
theorem length_columns_of_bindRow {position : Nat} {plan : Plan}
    (h : m.bindRow position row.entries = .ok plan) : row.columns.length = plan.length := by
  rw [length_bindRow h, OutboundRow.columns, List.length_map]

/-- What a row assigns are its columns and, in their order, the markers of its entries. -/
theorem map_zip_markers {position : Nat} {plan : Plan}
    (h : m.bindRow position row.entries = .ok plan) :
    let assigned := row.columns.zip (plan.markers.map AssignedValue.marker)
    assigned.map (·.1) = row.columns ∧ assigned.map (·.2) = plan.markers.map .marker := by
  intro assigned
  have lengths : row.columns.length = (plan.markers.map AssignedValue.marker).length := by
    rw [length_columns_of_bindRow h, List.length_map, Plan.markers, List.length_map]
  exact ⟨List.map_fst_zip (Nat.le_of_eq lengths), List.map_snd_zip (Nat.le_of_eq lengths.symm)⟩

/-! ## Mapped rows -/

/-- An insertion that is mapped has the columns of the row and the markers of its plan. -/
theorem mapsThrough_of_mapInsert {inserted : Operation}
    (h : m.mapInsert ⟨table, row⟩ = .ok inserted) :
    m.bindRow 0 row.entries = .ok inserted.plan ∧
      m.MapsThrough (.insert ⟨table, row⟩)
        (.insert ⟨table, row.columns, inserted.plan.markers⟩) inserted := by
  have mapped : m.map (.insert ⟨table, row⟩) = .ok inserted := h
  obtain ⟨statement, sql, lowered, written, text⟩ := exists_of_map_eq_ok mapped
  rw [lower, lowerInsert_eq] at lowered
  obtain ⟨plan, bound, same⟩ := Outcome.map_eq_ok.mp lowered
  obtain ⟨rfl, rfl⟩ := Prod.mk.inj same
  refine ⟨bound, ?_, sql, written, text⟩
  rw [lower, lowerInsert_eq, bound]
  rfl

/-- An update by a row that is mapped sets the columns of the row to the markers of the plan of the
row, and binds the criteria behind it. -/
theorem mapsThrough_of_mapUpdate (distinct : row.Distinct) {updated : Operation}
    (h : m.mapUpdate ⟨table, .ofRow row, criteria⟩ = .ok updated) :
    ∃ plan lowered, m.bindRow 0 row.entries = .ok plan ∧
      m.lowerCriteria table plan.length criteria = .ok lowered ∧
      updated.plan = plan ++ lowered.2 ∧
      m.MapsThrough (.update ⟨table, .ofRow row, criteria⟩)
        (.update ⟨table, row.columns.zip (plan.markers.map .marker), lowered.1⟩) updated := by
  have mapped : m.map (.update ⟨table, .ofRow row, criteria⟩) = .ok updated := h
  obtain ⟨statement, sql, lowered, written, text⟩ := exists_of_map_eq_ok mapped
  have equation := lowerUpdate_ofRow (m := m) distinct table criteria
  rw [lower, equation] at lowered
  obtain ⟨plan, bound, rest⟩ := Outcome.bind_eq_ok.mp lowered
  obtain ⟨condition, hcriteria, same⟩ := Outcome.map_eq_ok.mp rest
  obtain ⟨rfl, whole⟩ := Prod.mk.inj same
  exact ⟨plan, condition, bound, hcriteria, whole.symm, equation.trans lowered, sql, written, text⟩

/-- A row is inserted when it has a column and is bound. -/
theorem exists_mapInsert_iff :
    (∃ inserted, m.mapInsert ⟨table, row⟩ = .ok inserted) ↔
      row.columns ≠ [] ∧ ∃ plan, m.bindRow 0 row.entries = .ok plan := by
  constructor
  · rintro ⟨inserted, h⟩
    obtain ⟨bound, some⟩ := bindRow_of_mapInsert h
    exact ⟨mt List.map_eq_nil_iff.mp some, inserted.plan, bound⟩
  · rintro ⟨some, plan, bound⟩
    have values : row.columns.length = plan.markers.length := by
      rw [length_columns_of_bindRow bound, Plan.markers, List.length_map]
    have written :=
      InsertStatement.failsWith_sql m.dialect ⟨table, row.columns, plan.markers⟩ values
    rw [if_neg (by simpa using some)] at written
    obtain ⟨sql, hsql⟩ := written
    have lowered : m.lower (.insert ⟨table, row⟩)
        = .ok (.insert ⟨table, row.columns, plan.markers⟩, plan) := by
      rw [lower, lowerInsert_eq, bound]
      rfl
    exact ⟨_, map_of_lower lowered hsql⟩

/-- A row is set when it has a column, is bound, and the criteria are lowered behind it. -/
theorem exists_mapUpdate_iff (distinct : row.Distinct) :
    (∃ updated, m.mapUpdate ⟨table, .ofRow row, criteria⟩ = .ok updated) ↔
      row.columns ≠ [] ∧ ∃ plan, m.bindRow 0 row.entries = .ok plan ∧
        ∃ lowered, m.lowerCriteria table plan.length criteria = .ok lowered := by
  constructor
  · rintro ⟨updated, h⟩
    obtain ⟨plan, lowered, bound, hcriteria, -, -, sql, written, -⟩ :=
      mapsThrough_of_mapUpdate distinct h
    refine ⟨fun none => ?_, plan, bound, lowered, hcriteria⟩
    rw [none] at written
    cases written
  · rintro ⟨some, plan, bound, lowered, hcriteria⟩
    have assigns : (row.columns.zip (plan.markers.map AssignedValue.marker)).isEmpty = false := by
      rw [← List.isEmpty_map (f := Prod.fst), (map_zip_markers bound).1, List.isEmpty_eq_false_iff]
      exact some
    have written := UpdateStatement.failsWith_sql m.dialect
      ⟨table, row.columns.zip (plan.markers.map .marker), lowered.1⟩
    rw [assigns] at written
    obtain ⟨sql, hsql⟩ := written
    have update : m.lower (.update ⟨table, .ofRow row, criteria⟩)
        = .ok (.update ⟨table, row.columns.zip (plan.markers.map .marker), lowered.1⟩,
            plan ++ lowered.2) := by
      rw [lower, lowerUpdate_ofRow distinct, bound]
      exact Outcome.map_eq_ok.mpr ⟨lowered, hcriteria, rfl⟩
    exact ⟨_, map_of_lower update hsql⟩

/-- A row that edits made is set exactly when it is inserted and the criteria are lowered behind
its columns.  If it is both inserted and set, the insertion and the update share it. -/
theorem sharesRow_of_map (m : StatementMapper) (table : Identifier)
    (edits : List OutboundRow.Edit) (criteria : Criteria) :
    let row := OutboundRow.after edits
    let insertion : InsertSpec := ⟨table, row⟩
    let update : UpdateSpec := ⟨table, .ofRow row, criteria⟩
    ((∃ updated, m.mapUpdate update = .ok updated) ↔
        (∃ inserted, m.mapInsert insertion = .ok inserted) ∧
          ∃ lowered, m.lowerCriteria table row.columns.length criteria = .ok lowered) ∧
      ∀ inserted updated, m.mapInsert insertion = .ok inserted → m.mapUpdate update = .ok updated →
        ∃ into set, m.MapsThrough (.insert insertion) (.insert into) inserted ∧
          m.MapsThrough (.update update) (.update set) updated ∧ into.columns = row.columns ∧
          SharesRow into set inserted.plan updated.plan := by
  intro row insertion update
  have distinct : row.Distinct := OutboundRow.distinct_after edits
  constructor
  · rw [exists_mapUpdate_iff distinct, exists_mapInsert_iff, and_assoc]
    refine and_congr_right fun _ => ?_
    constructor
    · rintro ⟨plan, bound, lowered⟩
      rw [← length_columns_of_bindRow bound] at lowered
      exact ⟨⟨plan, bound⟩, lowered⟩
    · rintro ⟨⟨plan, bound⟩, lowered⟩
      rw [length_columns_of_bindRow bound] at lowered
      exact ⟨plan, bound, lowered⟩
  · intro inserted updated hinsert hupdate
    obtain ⟨bound, into⟩ := mapsThrough_of_mapInsert hinsert
    obtain ⟨plan, lowered, again, -, whole, set⟩ := mapsThrough_of_mapUpdate distinct hupdate
    cases bound.symm.trans again
    obtain ⟨columns, markers⟩ := map_zip_markers bound
    refine ⟨_, _, into, set, rfl, columns, markers, ?_, lowered.2, whole.symm⟩
    intro assignment mem null
    have marked : assignment.2 ∈ inserted.plan.markers.map AssignedValue.marker := by
      rw [← markers]
      exact List.mem_map_of_mem mem
    rw [null] at marked
    obtain ⟨_, -, marker⟩ := List.mem_map.mp marked
    cases marker

/-- A row in which one column was replaced and one removed, and which has an empty value. -/
theorem sharesRow_of_map_replaced :
    let m := ofDialect .sqlServer
    let edits : List OutboundRow.Edit :=
      [.put (.unquoted "a") (.ofValue (.int 1) .integer), .put (.unquoted "b") (.empty .text),
        .remove (.unquoted "B"), .put (.unquoted "c") (.empty .date),
        .put (.unquoted "A") (.ofValue (.text "x") .text)]
    let row := OutboundRow.after edits
    let insertion : InsertSpec := ⟨.unquoted "t", row⟩
    let update : UpdateSpec :=
      ⟨.unquoted "t", .ofRow row, Criteria.empty.addTest .and ⟨.ofText "d", .gt, .single (.int 1)⟩⟩
    ∃ inserted updated, m.mapInsert insertion = .ok inserted ∧ m.mapUpdate update = .ok updated ∧
      inserted.sql = "INSERT INTO t (a, c) VALUES (@P0_a, @P1_c)" ∧
      updated.sql = "UPDATE t SET a = @P0_a, c = @P1_c WHERE t.d > @P2_d" ∧
      ∃ into set, m.MapsThrough (.insert insertion) (.insert into) inserted ∧
        m.MapsThrough (.update update) (.update set) updated ∧ into.columns = row.columns ∧
        SharesRow into set inserted.plan updated.plan := by
  intro m edits row insertion update
  obtain ⟨-, shared⟩ := sharesRow_of_map m (.unquoted "t") edits update.criteria
  refine ⟨_, _, rfl, rfl, ?_, ?_, shared _ _ rfl rfl⟩
  · decide +kernel
  · decide +kernel

end StatementMapper

end DataMapper
