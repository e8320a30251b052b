import DataMapper.Proofs.Conversion
import DataMapper.Proofs.Lowering
import DataMapper.Proofs.OutboundRow
import DataMapper.Proofs.Strategy

/-!
# Outbound rows in statements

The values of an outbound row went through the write converters when the row was
made.  A statement mapper takes every value through the write converters of its
own, and it has the same registry.  So the plan of a statement that stores an
outbound row holds what the converters make of the values of the row, a second
time.

An insertion and an update of all columns have the same plan, since the columns of
an outbound row are apart (`EntityConverter.distinct_of_outboundRow`).  The plan
holds the values of the row as they are exactly when the converters keep each of
them, and a registry that settles keeps them all
(`EntityConverter.forall_of_outboundRow`).  `Strategy.values_of_mapInsert` puts this
together.
-/

namespace DataMapper

/-- The values of a row, in the order of its columns. -/
def OutboundRow.values (row : OutboundRow) : List Settable := row.entries.map (·.2)

/-- The values of a plan, in order. -/
def Plan.values (plan : Plan) : List Settable := plan.map (·.2)

/-! ## The rows of entities -/

namespace EntityConverter

variable {c : EntityConverter} {e : PersistentEntity}

/-- What puts keep and what holds of the values of properties holds of a row into
which named values were written. -/
theorem of_writeInto {P : OutboundRow → Prop}
    (step : ∀ row p value settable, P row → c.writeProperty p value = .ok settable →
      P (row.put p.column settable))
    {values : List (String × Value)} {sink row : OutboundRow} (before : P sink)
    (h : c.writeInto e values sink = (.ok (), row)) : P row := by
  induction values generalizing sink with
  | nil =>
      cases h
      exact before
  | cons entry rest ih =>
      obtain ⟨name, value⟩ := entry
      rw [writeInto] at h
      split at h
      next => cases h
      next p _ =>
        split at h
        next => cases h
        next settable hsettable => exact ih (step sink p value settable before hsettable) h

/-- What the coercion of single collections keeps holds of a row whose collections
were brought to the arrays of the dialect. -/
theorem of_coerceCollections {P : OutboundRow → Prop}
    (step : ∀ row (p : Property) current coerced, P row → row.get? p.column = some current →
      c.arrayValue current p = .ok coerced → P (row.put p.column coerced))
    {properties : List Property} {start row : OutboundRow} (before : P start)
    (h : c.coerceCollections properties start = .ok row) : P row := by
  induction properties generalizing start with
  | nil =>
      cases h
      exact before
  | cons p rest ih =>
      rw [coerceCollections] at h
      split at h
      next => exact ih before h
      next current found =>
        obtain ⟨coerced, hcoerced, h⟩ := Outcome.bind_eq_ok.mp h
        have there : start.get? p.column = some current := by
          split at found
          next => exact found
          next => cases found
        exact ih (step start p current coerced before there hcoerced) h

/-- What holds of the empty row and is kept in both rounds holds of outbound rows. -/
theorem of_outboundRow {P : OutboundRow → Prop} (empty : P .empty)
    (write : ∀ row p value settable, P row → c.writeProperty p value = .ok settable →
      P (row.put p.column settable))
    (coerce : ∀ row (p : Property) current coerced, P row → row.get? p.column = some current →
      c.arrayValue current p = .ok coerced → P (row.put p.column coerced))
    {i : Instance} {row : OutboundRow} (h : c.outboundRow e i = .ok row) : P row := by
  rw [outboundRow] at h
  split at h
  next => cases h
  next first hfirst => exact of_coerceCollections coerce (of_writeInto write empty hfirst) h

/-- The columns of an outbound row are apart. -/
theorem distinct_of_outboundRow {i : Instance} {row : OutboundRow}
    (h : c.outboundRow e i = .ok row) : row.Distinct :=
  of_outboundRow .nil (fun _ p _ settable distinct _ => distinct.put p.column settable)
    (fun _ p _ coerced distinct _ _ => distinct.put p.column coerced) h

/-- What holds of written properties and is kept when a collection is coerced holds
of the values of an outbound row. -/
theorem forall_of_outboundRow {P : Settable → Prop}
    (write : ∀ p value settable, c.writeProperty p value = .ok settable → P settable)
    (coerce : ∀ p current coerced, P current → c.arrayValue current p = .ok coerced → P coerced)
    {i : Instance} {row : OutboundRow} (h : c.outboundRow e i = .ok row) :
    ∀ entry ∈ row.entries, P entry.2 := by
  refine of_outboundRow (P := fun row => ∀ entry ∈ row.entries, P entry.2) nofun ?_ ?_ h
  · intro row p value settable all hsettable
    exact OutboundRow.forall_put all p.column (write p value settable hsettable)
  · intro row p current coerced all found hcoerced
    exact OutboundRow.forall_put all p.column
      (coerce p current coerced (OutboundRow.of_get? all found) hcoerced)

/-- Whether the value of a settable is written as it is. -/
def KeepsValue (c : EntityConverter) (s : Settable) : Prop :=
  ∀ value, s.value = some value → c.conversions.Keeps value

/-- The value of a settable of a value is that value. -/
theorem keepsValue_ofValue {value : Value} (h : c.conversions.Keeps value) (type : SqlType) :
    c.KeepsValue (.ofValue value type) := by
  intro present same
  cases value with
  | null => cases same
  | _ => cases same; exact h

/-- A registry that settles keeps the values of properties it has written. -/
theorem keepsValue_of_writeProperty (settles : c.conversions.Settles) {p : Property}
    {value : Value} {settable : Settable} (h : c.writeProperty p value = .ok settable) :
    c.KeepsValue settable := by
  obtain ⟨stored, hstored, rfl⟩ := Outcome.map_eq_ok.mp h
  exact keepsValue_ofValue (settles.written value stored (Outcome.atColumn_eq_ok.mp hstored)) _

/-- A registry that settles keeps a value it kept before it was made an array of the
dialect. -/
theorem keepsValue_of_arrayValue (settles : c.conversions.Settles) {p : Property}
    {current coerced : Settable} (kept : c.KeepsValue current)
    (h : c.arrayValue current p = .ok coerced) : c.KeepsValue coerced := by
  unfold arrayValue at h
  split at h
  next =>
    cases h
    exact kept
  next =>
    split at h
    next => cases h
    next =>
      obtain ⟨store, -, h⟩ := Outcome.bind_eq_ok.mp h
      split at h
      next =>
        cases h
        exact nofun
      next value found =>
        cases h
        have there : current.value = some value := (Option.filter_eq_some_iff.mp found).1
        exact keepsValue_ofValue (settles.keeps_coerce store value (kept value there)) _

end EntityConverter

/-! ## Rows and assignments -/

namespace Assignments

/-- A new column is assigned at the end. -/
theorem putEntry_of_forall {column : Identifier} {assignment : Assignment}
    {entries : List (Identifier × Assignment)}
    (h : ∀ entry ∈ entries, entry.1.equiv column = false) :
    putEntry column assignment entries = entries ++ [(column, assignment)] := by
  induction entries with
  | nil => rfl
  | cons entry rest ih =>
      obtain ⟨first, later⟩ := List.forall_mem_cons.mp h
      rw [putEntry, first, ih later]
      rfl

/-- Columns that are apart are assigned one after the other. -/
theorem foldl_setValue {entries : List (Identifier × Settable)} {a : Assignments}
    (apart : (a.entries.map (·.1) ++ entries.map (·.1)).Pairwise fun x y => x.equiv y = false) :
    (entries.foldl (fun a entry => a.setValue entry.1 entry.2) a).entries
      = a.entries ++ entries.map fun entry => (entry.1, .value entry.2) := by
  induction entries generalizing a with
  | nil => rw [List.foldl_nil, List.map_nil, List.append_nil]
  | cons entry rest ih =>
      have new : ∀ assigned ∈ a.entries, assigned.1.equiv entry.1 = false := by
        intro assigned hassigned
        refine (List.pairwise_append.mp apart).2.2 _ (List.mem_map_of_mem hassigned) _ ?_
        exact List.mem_map_of_mem (List.mem_cons_self ..)
      have grown : (a.setValue entry.1 entry.2).entries
          = a.entries ++ [(entry.1, .value entry.2)] := putEntry_of_forall new
      rw [List.foldl_cons, ih, grown, List.append_assoc, List.map_cons, List.singleton_append]
      rw [grown, List.map_append, List.append_assoc]
      exact apart

/-- The assignments of a row whose columns are apart are its entries. -/
theorem entries_ofRow {row : OutboundRow} (distinct : row.Distinct) :
    (ofRow row).entries = row.entries.map fun entry => (entry.1, .value entry.2) :=
  foldl_setValue (a := .empty) distinct

end Assignments

/-! ## Statements -/

namespace StatementMapper

variable {m : StatementMapper}

/-- The plan of a row holds its values, converted. -/
theorem values_of_bindRow {position : Nat} {entries : List (Identifier × Settable)} {plan : Plan}
    (h : m.bindRow position entries = .ok plan) :
    (entries.map (·.2)).mapM m.convert = .ok plan.values := by
  induction entries generalizing position plan with
  | nil =>
      cases h
      rfl
  | cons entry rest ih =>
      rw [bindRow] at h
      obtain ⟨first, hfirst, h⟩ := Outcome.bind_eq_ok.mp h
      obtain ⟨more, hmore, h⟩ := Outcome.bind_eq_ok.mp h
      cases h
      obtain ⟨stored, hstored, rfl⟩ := bind_eq_ok.mp hfirst
      exact Outcome.mapM_cons_eq_ok.mpr ⟨stored, more.values, hstored, ih hmore, rfl⟩

/-- Assigning the values of a row is binding the row, each column being assigned the marker of its
entry. -/
theorem lowerAssignments_values (m : StatementMapper) (position : Nat)
    (entries : List (Identifier × Settable)) :
    m.lowerAssignments position (entries.map fun entry => (entry.1, .value entry.2)) =
      (m.bindRow position entries).map fun plan =>
        ((entries.map (·.1)).zip (plan.markers.map .marker), plan) := by
  induction entries generalizing position with
  | nil => rfl
  | cons entry rest ih =>
      rw [List.map_cons, lowerAssignments, ih, bindRow]
      cases m.bind position entry.1 entry.2 with
      | error e => rfl
      | ok first => cases m.bindRow (position + 1) rest <;> rfl

/-- Assigning the values of a row gives the plan of the row. -/
theorem lowerAssignments_of_bindRow {position : Nat} {entries : List (Identifier × Settable)}
    {plan : Plan} (h : m.bindRow position entries = .ok plan) :
    ∃ assigned, m.lowerAssignments position
        (entries.map fun entry => (entry.1, .value entry.2)) = .ok (assigned, plan) ∧
      assigned.length = entries.length := by
  have lengths := congrArg List.length (markers_bindRow h)
  rw [Markers.length_run, List.length_map] at lengths
  rw [lowerAssignments_values, h]
  exact ⟨_, rfl, by simp [lengths]⟩

/-- An insertion has columns, and its plan is that of its row. -/
theorem bindRow_of_mapInsert {spec : InsertSpec} {operation : Operation}
    (h : m.mapInsert spec = .ok operation) :
    m.bindRow 0 spec.row.entries = .ok operation.plan ∧ spec.row.entries ≠ [] := by
  obtain ⟨lowered, hlower, h⟩ := Outcome.bind_eq_ok.mp h
  obtain ⟨plan, hplan, hlower⟩ := Outcome.bind_eq_ok.mp hlower
  cases hlower
  obtain ⟨sql, hsql, rfl⟩ := Outcome.map_eq_ok.mp h
  refine ⟨hplan, ?_⟩
  intro none
  simp [Statement.sql, InsertStatement.sql, OutboundRow.columns, none] at hsql

/-- A row that is inserted is assigned with the same plan. -/
theorem mapUpdate_of_mapInsert {table other : Identifier} {row : OutboundRow}
    (distinct : row.Distinct) {insertion : Operation}
    (h : m.mapInsert ⟨table, row⟩ = .ok insertion) :
    ∃ update, m.mapUpdate ⟨other, .ofRow row, .empty⟩ = .ok update ∧
      update.plan = insertion.plan := by
  obtain ⟨hplan, some⟩ := bindRow_of_mapInsert h
  obtain ⟨assigned, hassigned, count⟩ := lowerAssignments_of_bindRow hplan
  have assigns : assigned.isEmpty = false := by
    rw [List.isEmpty_eq_false_iff, ← List.length_pos_iff, count]
    exact List.length_pos_iff.mpr some
  have lowered : m.lowerUpdate ⟨other, .ofRow row, .empty⟩
      = .ok (.update ⟨other, assigned, none⟩, insertion.plan) := by
    refine Outcome.bind_eq_ok.mpr ⟨(assigned, insertion.plan), ?_, ?_⟩
    · rw [Assignments.entries_ofRow distinct]
      exact hassigned
    · exact congrArg (fun plan => Except.ok (_, plan)) (List.append_nil insertion.plan)
  obtain ⟨sql, hsql⟩ : ∃ sql, UpdateStatement.sql ⟨other, assigned, none⟩ m.dialect = .ok sql := by
    rw [UpdateStatement.sql, assigns]
    exact ⟨_, rfl⟩
  exact ⟨⟨sql.text, insertion.plan⟩,
    Outcome.bind_eq_ok.mpr ⟨_, lowered, Outcome.map_eq_ok.mpr ⟨sql, hsql, rfl⟩⟩, rfl⟩

/-- A settable is converted to itself when its value is written as it is. -/
theorem convert_eq_self {value : Settable}
    (h : ∀ v, value.value = some v → m.conversions.Keeps v) : m.convert value = .ok value := by
  obtain ⟨content, type, notNull⟩ := value
  cases content with
  | none => rfl
  | some v =>
      have kept : m.conversions.writeValue v = .ok v := h v rfl
      have present : v.present? = some v :=
        Value.present?_eq_some fun null => notNull (by rw [null])
      rw [convert]
      simp only
      rw [kept]
      exact congrArg Except.ok (Settable.ext_iff.mpr ⟨present, rfl⟩)

end StatementMapper

/-! ## Strategies -/

namespace Strategy

/-- The plan of an insertion of an outbound row holds the values of the row taken
through the write converters once more, in their order, and the update by the row
has the same plan.  They are the values of the row exactly when each of them is
converted to itself.  A registry that settles converts each of them to itself. -/
theorem values_of_mapInsert {s after : Strategy} {type : EntityType} {i : Instance}
    {row : OutboundRow} (written : s.outboundRow type i = (.ok row, after)) {table : Identifier}
    {insertion : Operation} (inserted : s.mapper.mapInsert ⟨table, row⟩ = .ok insertion) :
    row.values.mapM s.mapper.convert = .ok insertion.plan.values ∧
      (∀ other, ∃ update, s.mapper.mapUpdate ⟨other, .ofRow row, .empty⟩ = .ok update ∧
        update.plan = insertion.plan) ∧
      (insertion.plan.values = row.values ↔
        ∀ value ∈ row.values, s.mapper.convert value = .ok value) ∧
      (s.conversions.Settles → insertion.plan.values = row.values) := by
  have made : ∃ entity, s.converter.outboundRow entity i = .ok row := by
    obtain ⟨h, -⟩ := Prod.mk.inj written
    obtain ⟨entity, -, h⟩ := Outcome.bind_eq_ok.mp h
    exact ⟨entity, h⟩
  obtain ⟨entity, hrow⟩ := made
  have values := StatementMapper.values_of_bindRow
    (StatementMapper.bindRow_of_mapInsert inserted).1
  have exact_iff := Outcome.mapM_eq_self_iff values
  refine ⟨values, fun other => ?_, exact_iff, fun settles => ?_⟩
  · exact StatementMapper.mapUpdate_of_mapInsert
      (EntityConverter.distinct_of_outboundRow hrow) inserted
  · refine exact_iff.mpr fun value hvalue => ?_
    obtain ⟨entry, hentry, rfl⟩ := List.mem_map.mp hvalue
    refine StatementMapper.convert_eq_self ?_
    exact EntityConverter.forall_of_outboundRow
      (fun _ _ _ => EntityConverter.keepsValue_of_writeProperty settles)
      (fun _ _ _ => EntityConverter.keepsValue_of_arrayValue settles) hrow entry hentry

/-- A truth value that is stored as an 8-bit integer, and an absent text. -/
theorem values_of_mapInsert_truth :
    let s := Strategy.new .mysql [] .empty 0
    let type : EntityType := ⟨⟨⟨0⟩, "Task"⟩, .unquoted "task",
      [.ofType "done" (.unquoted "done") ⟨.bool, false⟩ false,
        .ofType "note" (.unquoted "note") ⟨.text, true⟩ false], []⟩
    ∃ row after insertion,
      s.outboundRow type ⟨[("done", .bool true), ("note", .null)], []⟩ = (.ok row, after) ∧
      s.mapper.mapInsert ⟨.unquoted "task", row⟩ = .ok insertion ∧
      row.values = [.ofValue (.tinyInt 1) .tinyInt, .empty .text] ∧
      insertion.plan.values = row.values := by
  intro s type
  have settles : s.conversions.Settles :=
    Dialect.settles (d := .mysql) (by simp [Dialect.builtIn])
  refine ⟨_, _, _, rfl, rfl, rfl, ?_⟩
  exact (@values_of_mapInsert s _ type ⟨[("done", .bool true), ("note", .null)], []⟩ _ rfl
    (.unquoted "task") _ rfl).2.2.2 settles

/-- A converter that swaps two texts is undone by the second pass, and the plan
holds the text of the entity in place of the text of the row. -/
theorem values_of_mapInsert_swap :
    let swap := Converter.ofTables "swap"
      [(.text "a", .ok (.text "b")), (.text "b", .ok (.text "a"))]
      [(.text "a", .text, .ok (.text "b")), (.text "b", .text, .ok (.text "a"))]
    let s := Strategy.new .postgres [swap] .empty 0
    let type : EntityType := ⟨⟨⟨0⟩, "Dyn"⟩, .unquoted "dyn_table",
      [.ofType "name" (.unquoted "name") ⟨.text, false⟩ false], []⟩
    ∃ row after insertion update,
      s.outboundRow type ⟨[("name", .text "a")], []⟩ = (.ok row, after) ∧
      s.mapper.mapInsert ⟨.unquoted "dyn_table", row⟩ = .ok insertion ∧
      s.mapper.mapUpdate ⟨.unquoted "dyn_table", .ofRow row, .empty⟩ = .ok update ∧
      row.values = [.ofValue (.text "b") .text] ∧
      insertion.plan.values = [.ofValue (.text "a") .text] ∧
      update.plan.values = [.ofValue (.text "a") .text] :=
  ⟨_, _, _, _, rfl, rfl, rfl, rfl, rfl, rfl⟩

end Strategy

end DataMapper
