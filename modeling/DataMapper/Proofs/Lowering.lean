import DataMapper.Proofs.Marker.Run
import DataMapper.Proofs.Outcome
import DataMapper.StatementMapper

/-!
# What a lowering gives

A lowering that succeeds is described here by rules, so that a theorem on it is
an induction over the rules and does not run the mapper.

* `StatementMapper.LowersTest` has a rule for each form of a test.
* `StatementMapper.Lowers` has a rule for the empty chain and one for each kind
  of part at the end of a chain.  What the chain before it became and how many
  entries it gave are known there.

`StatementMapper.lowersTest_of_eq_ok` and `StatementMapper.lowers_of_eq_ok` say
that the mapper follows the rules.  The entries of a plan are always a run of
markers from the position at which the lowering began (`Plan.IsRun`).
-/

namespace DataMapper

/-! ## Plans as runs -/

/-- The markers of a plan, in order. -/
def Plan.markers (plan : Plan) : List Marker := plan.map (·.1)

/-- Whether the markers of a plan are those a sequence hands out next. -/
def Plan.IsRun (plan : Plan) (markers : Markers) : Prop :=
  ∃ hints, plan.markers = markers.run hints

namespace Plan

theorem markers_append (a b : Plan) : markers (a ++ b) = markers a ++ markers b :=
  List.map_append

/-- Plans with the same markers have as many entries. -/
theorem length_eq_of_markers {a b : Plan} (same : a.markers = b.markers) :
    a.length = b.length := by
  have lengths := congrArg List.length same
  rwa [markers, markers, List.length_map, List.length_map] at lengths

theorem isRun_nil (markers : Markers) : IsRun [] markers := ⟨[], rfl⟩

/-- An entry for the next marker, followed by a run, is a run. -/
theorem isRun_cons {markers : Markers} (hint : Option String) (value : Settable) {rest : Plan}
    (h : rest.IsRun (markers.after 1)) :
    IsRun ((markers.factory.marker markers.count hint, value) :: rest) markers := by
  obtain ⟨hints, hrun⟩ := h
  refine ⟨hint :: hints, ?_⟩
  rw [Markers.run, Plan.markers, List.map_cons]
  exact congrArg _ hrun

/-- A run followed by the run that goes on from it is a run. -/
theorem isRun_append {markers : Markers} {a b : Plan} (ha : a.IsRun markers)
    (hb : b.IsRun (markers.after a.length)) : IsRun (a ++ b) markers := by
  obtain ⟨hints, hrun⟩ := ha
  obtain ⟨more, hmore⟩ := hb
  have count : a.length = hints.length := by
    rw [← Markers.length_run markers hints, ← hrun, Plan.markers, List.length_map]
  refine ⟨hints ++ more, ?_⟩
  rw [markers_append, Markers.run_append, hrun, hmore, count]

end Plan

namespace StatementMapper

variable {m : StatementMapper} {table : Identifier} {position : Nat}

/-- The markers of the dialect when a number of them were handed out. -/
def markersAt (m : StatementMapper) (position : Nat) : Markers := ⟨m.dialect.markers, position⟩

/-- The sequence at a position goes on as the sequence at a later one. -/
theorem markersAt_after (m : StatementMapper) (position more : Nat) :
    (m.markersAt position).after more = m.markersAt (position + more) := rfl

/-- The entry of a bound value, followed by a run, is a run. -/
theorem isRun_cons_marker (column : Identifier) (value : Settable) {rest : Plan}
    (h : rest.IsRun (m.markersAt (position + 1))) :
    Plan.IsRun ((m.marker position column, value) :: rest) (m.markersAt position) := by
  have later : rest.IsRun ((m.markersAt position).after 1) := h
  exact Plan.isRun_cons (some column.name) value later

/-! ## Bound values -/

/-- A value of the criteria is entered as what the converters write for it. -/
theorem bindOperand_eq_ok {column : Identifier} {value : Value} {entry : Marker × Settable} :
    m.bindOperand position column value = .ok entry ↔
      ∃ stored, m.conversions.writeValue value = .ok stored ∧
        entry = (m.marker position column, .ofValue stored (stored.sqlType?.getD .text)) := by
  unfold bindOperand
  rw [Outcome.map_eq_ok]
  constructor
  · rintro ⟨stored, hstored, rfl⟩
    exact ⟨stored, hstored, rfl⟩
  · rintro ⟨stored, hstored, rfl⟩
    exact ⟨stored, hstored, rfl⟩

/-- A settable is entered as what it is converted to. -/
theorem bind_eq_ok {column : Identifier} {value : Settable} {entry : Marker × Settable} :
    m.bind position column value = .ok entry ↔
      ∃ stored, m.convert value = .ok stored ∧ entry = (m.marker position column, stored) := by
  unfold bind
  rw [Outcome.map_eq_ok]
  constructor
  · rintro ⟨stored, hstored, rfl⟩
    exact ⟨stored, hstored, rfl⟩
  · rintro ⟨stored, hstored, rfl⟩
    exact ⟨stored, hstored, rfl⟩

/-- The entries of a list of values are the entry of the first and those of the rest. -/
theorem bindOperands_cons_eq_ok {column : Identifier} {value : Value} {rest : List Value}
    {entries : Plan} (h : m.bindOperands position column (value :: rest) = .ok entries) :
    ∃ entry more, m.bindOperand position column value = .ok entry ∧
      m.bindOperands (position + 1) column rest = .ok more ∧ entries = entry :: more := by
  rw [bindOperands, Outcome.bind_eq_ok] at h
  obtain ⟨entry, hentry, h⟩ := h
  obtain ⟨more, hmore, h⟩ := Outcome.bind_eq_ok.mp h
  cases h
  exact ⟨entry, more, hentry, hmore, rfl⟩

/-- The markers of a list of values are counted from the position on. -/
theorem markers_bindOperands {column : Identifier} {values : List Value} {entries : Plan}
    (h : m.bindOperands position column values = .ok entries) :
    entries.markers
      = (m.markersAt position).run (List.replicate values.length (some column.name)) := by
  induction values generalizing position entries with
  | nil =>
      cases h
      rfl
  | cons value rest ih =>
      obtain ⟨entry, more, hentry, hmore, rfl⟩ := bindOperands_cons_eq_ok h
      obtain ⟨stored, -, rfl⟩ := bindOperand_eq_ok.mp hentry
      rw [List.length_cons, List.replicate_succ, Markers.run]
      exact congrArg _ (ih hmore)

/-- The markers of a list of values are a run. -/
theorem isRun_bindOperands {column : Identifier} {values : List Value} {entries : Plan}
    (h : m.bindOperands position column values = .ok entries) :
    entries.IsRun (m.markersAt position) :=
  ⟨_, markers_bindOperands h⟩

/-- The markers of a row are counted from the position on, with its columns as hints. -/
theorem markers_bindRow {row : List (Identifier × Settable)} {entries : Plan}
    (h : m.bindRow position row = .ok entries) :
    entries.markers = (m.markersAt position).run (row.map fun cell => some cell.1.name) := by
  induction row generalizing position entries with
  | nil =>
      cases h
      rfl
  | cons cell rest ih =>
      obtain ⟨entry, hentry, h⟩ := Outcome.bind_eq_ok.mp h
      obtain ⟨more, hmore, h⟩ := Outcome.bind_eq_ok.mp h
      cases h
      obtain ⟨stored, -, rfl⟩ := bind_eq_ok.mp hentry
      rw [List.map_cons, Markers.run]
      exact congrArg _ (ih hmore)

/-- The markers of a row are a run. -/
theorem isRun_bindRow {row : List (Identifier × Settable)} {entries : Plan}
    (h : m.bindRow position row = .ok entries) : entries.IsRun (m.markersAt position) :=
  ⟨_, markers_bindRow h⟩

/-! ## Tests -/

/-- What a test becomes, with its entries of the plan. -/
inductive LowersTest (m : StatementMapper) (table : Identifier) (position : Nat) :
    Criterion → Condition → Plan → Prop where
  /-- A test without an operand binds nothing. -/
  | unary {column : ColumnRef} {comparator : Comparator} {operand : Operand}
      (h : comparator.isUnary = true) :
      LowersTest m table position ⟨column, comparator, operand⟩
        (.unary (qualify table column) comparator.text) []
  /-- Nothing is in the empty list. -/
  | emptyIn {column : ColumnRef} :
      LowersTest m table position ⟨column, .isIn, .list []⟩ (.constant "1 = 0") []
  /-- Everything is outside the empty list. -/
  | emptyNotIn {column : ColumnRef} :
      LowersTest m table position ⟨column, .notIn, .list []⟩ (.constant "1 = 1") []
  /-- A test for being in a list binds each value. -/
  | isIn {column : ColumnRef} {values : List Value} {entries : Plan} (filled : values ≠ [])
      (h : m.bindOperands position column.column values = .ok entries) :
      LowersTest m table position ⟨column, .isIn, .list values⟩
        (.isIn (qualify table column) entries.markers false) entries
  /-- So does a test for being outside of it. -/
  | notIn {column : ColumnRef} {values : List Value} {entries : Plan} (filled : values ≠ [])
      (h : m.bindOperands position column.column values = .ok entries) :
      LowersTest m table position ⟨column, .notIn, .list values⟩
        (.isIn (qualify table column) entries.markers true) entries
  /-- A range binds its ends. -/
  | between {column : ColumnRef} {low high : Value} {lowEntry highEntry : Marker × Settable}
      (lowHere : low.isNull = false) (highHere : high.isNull = false)
      (hlow : m.bindOperand position column.column low = .ok lowEntry)
      (hhigh : m.bindOperand (position + 1) column.column high = .ok highEntry) :
      LowersTest m table position ⟨column, .between, .range low high⟩
        (.between (qualify table column) lowEntry.1 highEntry.1) [lowEntry, highEntry]
  /-- Any other test binds its value. -/
  | comparison {column : ColumnRef} {comparator : Comparator} {value : Value}
      {entry : Marker × Settable} (binary : comparator.isUnary = false)
      (here : value.isNull = false)
      (h : m.bindOperand position column.column value = .ok entry) :
      LowersTest m table position ⟨column, comparator, .single value⟩
        (.comparison (qualify table column) comparator.text entry.1) [entry]

/-- The mapper lowers a test by these rules. -/
theorem lowersTest_of_eq_ok {c : Criterion} {condition : Condition} {entries : Plan}
    (h : m.lowerTest table position c = .ok (condition, entries)) :
    LowersTest m table position c condition entries := by
  obtain ⟨column, comparator, operand⟩ := c
  unfold lowerTest at h
  simp only at h
  split at h
  next unary =>
    cases h
    exact .unary unary
  next binary =>
    have binary : comparator.isUnary = false := Bool.eq_false_iff.mpr binary
    split at h
    next =>
      cases h
      exact .emptyIn
    next =>
      cases h
      exact .emptyNotIn
    next values filled _ =>
      obtain ⟨entries, hentries, h⟩ := Outcome.bind_eq_ok.mp h
      cases h
      exact .isIn filled hentries
    next values filled _ =>
      obtain ⟨entries, hentries, h⟩ := Outcome.bind_eq_ok.mp h
      cases h
      exact .notIn filled hentries
    next low high =>
      split at h
      next => cases h
      next here =>
        rw [Bool.or_eq_true, not_or, Bool.not_eq_true, Bool.not_eq_true] at here
        obtain ⟨lowEntry, hlow, h⟩ := Outcome.bind_eq_ok.mp h
        obtain ⟨highEntry, hhigh, h⟩ := Outcome.bind_eq_ok.mp h
        cases h
        exact .between here.1 here.2 hlow hhigh
    next value =>
      split at h
      next => cases h
      next here =>
        obtain ⟨entry, hentry, h⟩ := Outcome.bind_eq_ok.mp h
        cases h
        exact .comparison binary (Bool.eq_false_iff.mpr here) hentry
    next => cases h

/-! ## Chains -/

/-- What a chain becomes, with its entries of the plan.  The last part decides. -/
inductive Lowers (m : StatementMapper) (table : Identifier) :
    Nat → List CriteriaPart → Option Condition → Plan → Prop where
  /-- The empty chain becomes no condition. -/
  | nil {position : Nat} : Lowers m table position [] none []
  /-- A test is joined to what the chain before it became. -/
  | test {position : Nat} {parts : List CriteriaPart} {before : Option Condition}
      {entries more : Plan} {criterion : Criterion} {condition : Condition} (join : Join)
      (past : Lowers m table position parts before entries)
      (h : LowersTest m table (position + entries.length) criterion condition more) :
      Lowers m table position (parts ++ [.test join criterion])
        (some (joinCondition before join condition)) (entries ++ more)
  /-- A group is joined to it in parentheses. -/
  | group {position : Nat} {parts inner : List CriteriaPart} {before : Option Condition}
      {entries more : Plan} {condition : Condition} (join : Join)
      (past : Lowers m table position parts before entries)
      (h : Lowers m table (position + entries.length) inner (some condition) more) :
      Lowers m table position (parts ++ [.group join inner])
        (some (joinCondition before join (.nested condition))) (entries ++ more)
  /-- A group that becomes no condition is passed over. -/
  | emptyGroup {position : Nat} {parts inner : List CriteriaPart} {before : Option Condition}
      {entries more : Plan} (join : Join)
      (past : Lowers m table position parts before entries)
      (h : Lowers m table (position + entries.length) inner none more) :
      Lowers m table position (parts ++ [.group join inner]) before (entries ++ more)

/-- The empty chain becomes nothing else. -/
theorem Lowers.of_nil {condition : Option Condition} {entries : Plan}
    (h : Lowers m table position [] condition entries) : condition = none := by
  generalize whole : ([] : List CriteriaPart) = all at h
  cases h with
  | nil => rfl
  | _ => cases List.append_ne_nil_of_right_ne_nil _ (List.cons_ne_nil _ _) whole.symm

/-- A lowered chain that ends in a test was lowered up to it. -/
theorem Lowers.of_test {parts : List CriteriaPart} {join : Join} {criterion : Criterion}
    {condition : Option Condition} {entries : Plan}
    (h : Lowers m table position (parts ++ [.test join criterion]) condition entries) :
    ∃ before past more tested, Lowers m table position parts before past ∧
      LowersTest m table (position + past.length) criterion tested more ∧
      condition = some (joinCondition before join tested) := by
  generalize whole : parts ++ [CriteriaPart.test join criterion] = all at h
  cases h with
  | nil => cases List.append_ne_nil_of_right_ne_nil parts (List.cons_ne_nil _ _) whole
  | test _ past htest =>
      obtain ⟨rfl, last⟩ := List.append_inj' whole rfl
      cases last
      exact ⟨_, _, _, _, past, htest, rfl⟩
  | group _ _ _ =>
      obtain ⟨-, last⟩ := List.append_inj' whole rfl
      cases last
  | emptyGroup _ _ _ =>
      obtain ⟨-, last⟩ := List.append_inj' whole rfl
      cases last

/-- A lowered chain that ends in a group was lowered up to it, and so was the group. -/
theorem Lowers.of_group {parts inner : List CriteriaPart} {join : Join}
    {condition : Option Condition} {entries : Plan}
    (h : Lowers m table position (parts ++ [.group join inner]) condition entries) :
    ∃ before past more nested, Lowers m table position parts before past ∧
      Lowers m table (position + past.length) inner nested more ∧
      condition = match nested with
        | some nested => some (joinCondition before join (.nested nested))
        | none => before := by
  generalize whole : parts ++ [CriteriaPart.group join inner] = all at h
  cases h with
  | nil => cases List.append_ne_nil_of_right_ne_nil parts (List.cons_ne_nil _ _) whole
  | test _ _ _ =>
      obtain ⟨-, last⟩ := List.append_inj' whole rfl
      cases last
  | group _ past hinner =>
      obtain ⟨rfl, last⟩ := List.append_inj' whole rfl
      cases last
      exact ⟨_, _, _, some _, past, hinner, rfl⟩
  | emptyGroup _ past hinner =>
      obtain ⟨rfl, last⟩ := List.append_inj' whole rfl
      cases last
      exact ⟨_, _, _, none, past, hinner, rfl⟩

/-- A lowered test takes its rule at the end of a chain. -/
theorem lowerPart_test_eq_ok {join : Join} {criterion : Criterion}
    {condition : Option Condition} {entries : Plan}
    (h : m.lowerPart table position (.test join criterion) = .ok (condition, entries)) :
    ∃ tested, condition = some tested ∧ LowersTest m table position criterion tested entries := by
  rw [lowerPart] at h
  obtain ⟨⟨tested, more⟩, htest, h⟩ := Outcome.bind_eq_ok.mp h
  cases h
  exact ⟨tested, rfl, lowersTest_of_eq_ok htest⟩

/-- The mapper lowers the parts after a chain by these rules. -/
theorem lowers_append :
    ∀ {parts past : List CriteriaPart} {position : Nat} {before condition : Option Condition}
      {entries more : Plan}, Lowers m table position past before entries →
      m.lowerParts table (position + entries.length) before parts = .ok (condition, more) →
      Lowers m table position (past ++ parts) condition (entries ++ more)
  | [], _, _, _, _, _, _, hpast, h => by
      rw [lowerParts] at h
      cases h
      rw [List.append_nil, List.append_nil]
      exact hpast
  | .test join criterion :: rest, _, _, _, _, _, _, hpast, h => by
      rw [lowerParts] at h
      obtain ⟨⟨part, first⟩, hpart, h⟩ := Outcome.bind_eq_ok.mp h
      obtain ⟨⟨result, others⟩, hrest, h⟩ := Outcome.bind_eq_ok.mp h
      cases h
      obtain ⟨tested, rfl, htest⟩ := lowerPart_test_eq_ok hpart
      rw [Nat.add_assoc, ← List.length_append] at hrest
      rw [← List.append_assoc, ← List.singleton_append, ← List.append_assoc]
      exact lowers_append (.test join hpast htest) hrest
  | .group join inner :: rest, _, position, _, _, entries, _, hpast, h => by
      rw [lowerParts] at h
      obtain ⟨⟨part, first⟩, hpart, h⟩ := Outcome.bind_eq_ok.mp h
      obtain ⟨⟨result, others⟩, hrest, h⟩ := Outcome.bind_eq_ok.mp h
      cases h
      rw [lowerPart] at hpart
      obtain ⟨⟨nested, first⟩, hinner, hpart⟩ := Outcome.bind_eq_ok.mp hpart
      cases hpart
      rw [Nat.add_assoc, ← List.length_append] at hrest
      rw [← List.append_assoc, ← List.singleton_append, ← List.append_assoc]
      have start : Lowers m table (position + entries.length) [] none [] := .nil
      have group := lowers_append start hinner
      cases nested with
      | none => exact lowers_append (.emptyGroup join hpast group) hrest
      | some nested => exact lowers_append (.group join hpast group) hrest

/-- The mapper lowers criteria by these rules. -/
theorem lowers_of_eq_ok {c : Criteria} {condition : Option Condition} {entries : Plan}
    (h : m.lowerCriteria table position c = .ok (condition, entries)) :
    Lowers m table position c.parts condition entries :=
  lowers_append .nil h

end StatementMapper

end DataMapper
