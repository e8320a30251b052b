import DataMapper.Proofs.Condition.Clause
import DataMapper.Proofs.Conversion

/-!
# Specifications that are refused

A registry that writes every value (`Conversions.WritesAll`) leaves few reasons not to map a
specification, and the registry of a built-in dialect is one (`Dialect.writesAll`).  Nothing
that is bound fails then.  A built test is refused when it compares its column with the NULL
(`Criterion.comparesNull`), for only equality with the NULL is taken as the test for it.

A chain is refused as the first of its tests that is (`StatementMapper.failsWith_lowerParts`),
and a specification as its criteria are, or else for having nothing to insert or to assign.
`Spec.refusal?` is the error, and by `StatementMapper.fails_iff_refused` there is no other.
-/

namespace DataMapper

open Outcome (FailsWith)

/-! ## Refusals -/

/-- Whether an operator that takes values does not take the NULL for one.  Equality and its
negation are not among these, for a builder makes tests for the NULL of them. -/
def Comparator.refusesNull : Comparator → Bool
  | lt | lte | gt | gte | like | notLike | between => true
  | _ => false

/-- Whether one value is the NULL, or one end of a range is. -/
def Operand.hasNull : Operand → Bool
  | single value => value.isNull
  | range low high => low.isNull || high.isNull
  | _ => false

namespace Criterion

/-- Whether a column is compared with the NULL by an operator that does not take it. -/
def comparesNull (c : Criterion) : Bool := c.comparator.refusesNull && c.operand.hasNull

/-- The error of a test that is refused. -/
def refusal? (c : Criterion) : Option Error :=
  if c.comparesNull then some (StatementMapper.nullOperand c.column c.comparator) else none

theorem refusal?_none (column : ColumnRef) (comparator : Comparator) :
    refusal? ⟨column, comparator, .none⟩ = none := by
  simp [refusal?, comparesNull, Operand.hasNull]

/-- A test against one value takes no operand when it tests for the NULL, and otherwise the
value, which is the NULL only where the operator does not take it. -/
theorem ofSingle_cases (column : ColumnRef) {comparator : Comparator} (value : Value)
    (known : comparator ∈ [.eq, .notEq, .lt, .lte, .gt, .gte, .like, .notLike]) :
    (∃ test : Comparator, test.isUnary = true ∧
        ofSingle column comparator value = ⟨column, test, .none⟩) ∨
      (comparator.isUnary = false ∧ (value.isNull = true → comparator.refusesNull = true) ∧
        ofSingle column comparator value = ⟨column, comparator, .single value⟩) := by
  cases value with
  | null =>
      simp only [List.mem_cons, List.not_mem_nil, or_false] at known
      rcases known with rfl | rfl | rfl | rfl | rfl | rfl | rfl | rfl
      · exact .inl ⟨.isNull, rfl, rfl⟩
      · exact .inl ⟨.isNotNull, rfl, rfl⟩
      all_goals exact .inr ⟨rfl, fun _ => rfl, rfl⟩
  | _ =>
      simp only [List.mem_cons, List.not_mem_nil, or_false] at known
      rcases known with rfl | rfl | rfl | rfl | rfl | rfl | rfl | rfl <;>
        exact .inr ⟨rfl, nofun, rfl⟩

end Criterion

/-- The error of the first test that is refused. -/
def chainRefusal? (parts : List CriteriaPart) : Option Error :=
  (chainTests parts).findSome? Criterion.refusal?

/-- The error of a specification that is refused. -/
def Spec.refusal? (d : Dialect) : Spec → Option Error
  | select s => chainRefusal? s.criteria.parts
  | insert s => if s.row.isEmpty then some (.render .noColumns none) else none
  | update s => (chainRefusal? s.criteria.parts).or <|
      if s.assignments.isEmpty then
        some (.render .noAssignments (some ("UPDATE " ++ d.toSql s.table ++ " SET")))
      else none
  | delete s => chainRefusal? s.criteria.parts

/-- Whether a specification compares a column with the NULL at some depth of its criteria, or
has nothing to insert or to assign. -/
def Spec.Refused : Spec → Prop
  | select s => ∃ c ∈ s.criteria.tests, c.comparesNull = true
  | insert s => s.row.columns = []
  | update s => (∃ c ∈ s.criteria.tests, c.comparesNull = true) ∨ s.assignments.entries = []
  | delete s => ∃ c ∈ s.criteria.tests, c.comparesNull = true

/-- A chain is refused when one of its tests compares with the NULL. -/
theorem isSome_chainRefusal? (parts : List CriteriaPart) :
    (chainRefusal? parts).isSome = true ↔ ∃ c ∈ chainTests parts, c.comparesNull = true := by
  rw [chainRefusal?, List.findSome?_isSome_iff]
  refine exists_congr fun c => and_congr_right fun _ => ?_
  rw [Criterion.refusal?]
  cases c.comparesNull <;> simp

/-- A specification is refused when it gives a reason. -/
theorem Spec.isSome_refusal? (d : Dialect) {spec : Spec} :
    (spec.refusal? d).isSome = true ↔ spec.Refused := by
  cases spec with
  | select s => exact isSome_chainRefusal? s.criteria.parts
  | insert s =>
      rw [refusal?, Refused, OutboundRow.columns, List.map_eq_nil_iff, OutboundRow.isEmpty]
      cases s.row.entries <;> simp
  | update s =>
      rw [refusal?, Refused, Option.isSome_or, Bool.or_eq_true, isSome_chainRefusal?]
      refine or_congr_right ?_
      rw [Assignments.isEmpty]
      cases s.assignments.entries <;> simp
  | delete s => exact isSome_chainRefusal? s.criteria.parts

/-- A chain is refused with the error of a test that compares with the NULL. -/
theorem exists_of_chainRefusal? {parts : List CriteriaPart} {e : Error}
    (h : chainRefusal? parts = some e) : ∃ c ∈ chainTests parts, c.comparesNull = true ∧
      e = StatementMapper.nullOperand c.column c.comparator := by
  obtain ⟨c, mem, found⟩ := List.exists_of_findSome?_eq_some h
  rw [Criterion.refusal?] at found
  split at found
  next compares => exact ⟨c, mem, compares, (Option.some.inj found).symm⟩
  next => cases found

/-- A specification is refused with the error of such a test, or for having no column to insert
or nothing to assign. -/
theorem Spec.cases_of_refusal? {d : Dialect} {spec : Spec} {e : Error}
    (h : spec.refusal? d = some e) :
    (∃ c ∈ spec.criteria.tests, c.comparesNull = true ∧
        e = StatementMapper.nullOperand c.column c.comparator) ∨
      e = .render .noColumns none ∨ ∃ front, e = .render .noAssignments (some front) := by
  cases spec with
  | select s => exact .inl (exists_of_chainRefusal? h)
  | insert s =>
      rw [refusal?] at h
      split at h
      next => exact .inr (.inl (Option.some.inj h).symm)
      next => cases h
  | update s =>
      rw [refusal?, Option.or_eq_some_iff] at h
      rcases h with criteria | ⟨-, assignments⟩
      · exact .inl (exists_of_chainRefusal? criteria)
      · split at assignments
        next => exact .inr (.inr ⟨_, (Option.some.inj assignments).symm⟩)
        next => cases assignments
  | delete s => exact .inl (exists_of_chainRefusal? h)

/-- The tests of built criteria are built. -/
theorem Criteria.built_of_mem_tests {c : Criteria} (built : c.Built) :
    ∀ test ∈ c.tests, test.Built := by
  induction built with
  | empty => nofun
  | addTest _ join _ last ih =>
      intro test mem
      rw [tests, addTest, chainTests_append] at mem
      rcases List.mem_append.mp mem with old | new
      · exact ih test old
      · rw [List.mem_singleton.mp new]
        exact last
  | @addGroup c group _ join _ _ ih ihInner =>
      intro test mem
      rw [addGroup] at mem
      split at mem
      next => exact ih test mem
      next =>
        rw [tests, chainTests_append] at mem
        rcases List.mem_append.mp mem with old | new
        · exact ih test old
        · exact ihInner test new

/-! ## Written statements -/

/-- An insertion with a value for each column is written, unless it has no column. -/
theorem InsertStatement.failsWith_sql (d : Dialect) (s : InsertStatement)
    (values : s.columns.length = s.values.length) :
    FailsWith (s.sql d) (if s.columns.isEmpty then some (.render .noColumns none) else none) := by
  rw [sql]
  split
  next => rfl
  next => exact .of_ok (if_neg (not_not_intro values))

/-- An update is written, unless it assigns nothing. -/
theorem UpdateStatement.failsWith_sql (d : Dialect) (s : UpdateStatement) :
    FailsWith (s.sql d) (if s.assignments.isEmpty then
      some (.render .noAssignments (some ("UPDATE " ++ d.toSql s.table ++ " SET"))) else none) := by
  rw [sql]
  split
  next => rfl
  next => exact .of_ok rfl

namespace StatementMapper

variable {m : StatementMapper} {table : Identifier}

/-! ## What is bound -/

theorem failsWith_bindOperand (writes : m.conversions.WritesAll) (position : Nat)
    (column : Identifier) (value : Value) :
    FailsWith (m.bindOperand position column value) none :=
  have written : FailsWith (m.conversions.writeValue value) none := writes value
  written.map _

theorem failsWith_bindOperands (writes : m.conversions.WritesAll) (position : Nat)
    (column : Identifier) (values : List Value) :
    FailsWith (m.bindOperands position column values) none := by
  induction values generalizing position with
  | nil => exact .of_ok rfl
  | cons value rest ih =>
      refine (failsWith_bindOperand writes position column value).bind fun entry _ => ?_
      exact (ih (position + 1)).bind_ok fun more => ⟨_, rfl⟩

theorem failsWith_bind (writes : m.conversions.WritesAll) (position : Nat) (column : Identifier)
    (value : Settable) : FailsWith (m.bind position column value) none := by
  refine .map ?_ _
  rw [convert]
  split
  next v _ =>
    have written : FailsWith (m.conversions.writeValue v) none := writes v
    exact written.map _
  next => exact .of_ok rfl

theorem failsWith_bindRow (writes : m.conversions.WritesAll) (position : Nat)
    (row : List (Identifier × Settable)) : FailsWith (m.bindRow position row) none := by
  induction row generalizing position with
  | nil => exact .of_ok rfl
  | cons cell rest ih =>
      refine (failsWith_bind writes position cell.1 cell.2).bind fun entry _ => ?_
      exact (ih (position + 1)).bind_ok fun more => ⟨_, rfl⟩

theorem failsWith_lowerAssignments (writes : m.conversions.WritesAll) (position : Nat)
    (assignments : List (Identifier × Assignment)) :
    FailsWith (m.lowerAssignments position assignments) none := by
  induction assignments generalizing position with
  | nil => exact .of_ok rfl
  | cons assignment rest ih =>
      obtain ⟨column, value⟩ := assignment
      cases value with
      | null => exact (ih position).bind_ok fun more => ⟨_, rfl⟩
      | value value =>
          refine (failsWith_bind writes position column value).bind fun entry _ => ?_
          exact (ih (position + 1)).bind_ok fun more => ⟨_, rfl⟩

/-! ## Criteria -/

/-- A test without an operand is not refused. -/
theorem failsWith_lowerTest_unary (position : Nat) (column : ColumnRef) {comparator : Comparator}
    (unary : comparator.isUnary = true) :
    FailsWith (m.lowerTest table position ⟨column, comparator, .none⟩) none := by
  have lowered : m.lowerTest table position ⟨column, comparator, .none⟩
      = .ok (.unary (qualify table column) comparator.text, []) := if_pos unary
  exact .of_ok lowered

/-- A test against one value looks at the value and then binds it. -/
theorem lowerTest_single (position : Nat) (column : ColumnRef) {comparator : Comparator}
    (binary : comparator.isUnary = false) (value : Value) :
    m.lowerTest table position ⟨column, comparator, .single value⟩
      = if value.isNull then .error (nullOperand column comparator)
        else m.bindOperand position column.column value >>= fun entry =>
          .ok (.comparison (qualify table column) comparator.text entry.1, [entry]) := by
  cases comparator <;> first | rfl | cases binary

/-- A test against one value is refused with the NULL, and binds the value otherwise. -/
theorem failsWith_lowerTest_single (writes : m.conversions.WritesAll) (position : Nat)
    (column : ColumnRef) {comparator : Comparator} (binary : comparator.isUnary = false)
    (value : Value) :
    FailsWith (m.lowerTest table position ⟨column, comparator, .single value⟩)
      (if value.isNull then some (nullOperand column comparator) else none) := by
  rw [lowerTest_single position column binary value]
  split
  next => rfl
  next =>
    exact (failsWith_bindOperand writes position column.column value).bind_ok fun entry => ⟨_, rfl⟩

/-- A test against a range is refused with the NULL at an end, and binds the ends otherwise. -/
theorem failsWith_lowerTest_range (writes : m.conversions.WritesAll) (position : Nat)
    (column : ColumnRef) (low high : Value) :
    FailsWith (m.lowerTest table position ⟨column, .between, .range low high⟩)
      (if low.isNull || high.isNull then some (nullOperand column .between) else none) := by
  have lowered : m.lowerTest table position ⟨column, .between, .range low high⟩
      = if low.isNull || high.isNull then .error (nullOperand column .between)
        else m.bindOperand position column.column low >>= fun low =>
          m.bindOperand (position + 1) column.column high >>= fun high =>
            .ok (.between (qualify table column) low.1 high.1, [low, high]) := rfl
  rw [lowered]
  split
  next => rfl
  next =>
    refine (failsWith_bindOperand writes position column.column low).bind fun first _ => ?_
    exact (failsWith_bindOperand writes (position + 1) column.column high).bind_ok fun second =>
      ⟨_, rfl⟩

/-- A test against a list is not refused, whatever is in the list. -/
theorem failsWith_lowerTest_list (writes : m.conversions.WritesAll) (position : Nat)
    (column : ColumnRef) {comparator : Comparator} (known : comparator ∈ [.isIn, .notIn])
    (values : List Value) :
    FailsWith (m.lowerTest table position ⟨column, comparator, .list values⟩) none := by
  have bound := failsWith_bindOperands writes position column.column values
  simp only [List.mem_cons, List.not_mem_nil, or_false] at known
  cases values with
  | nil => rcases known with rfl | rfl <;> exact .of_ok rfl
  | cons value rest =>
      rcases known with rfl | rfl
      · exact bound.bind_ok fun entries => ⟨_, rfl⟩
      · exact bound.bind_ok fun entries => ⟨_, rfl⟩

/-- A built test is refused when it compares its column with the NULL. -/
theorem failsWith_lowerTest (writes : m.conversions.WritesAll) (position : Nat) {c : Criterion}
    (built : c.Built) : FailsWith (m.lowerTest table position c) c.refusal? := by
  cases built with
  | single column comparator value h =>
      obtain ⟨test, unary, same⟩ | ⟨binary, takes, same⟩ := Criterion.ofSingle_cases column value h
      · rw [same, Criterion.refusal?_none]
        exact failsWith_lowerTest_unary position column unary
      · have refused : (Criterion.mk column comparator (.single value)).comparesNull
            = value.isNull := by
          rw [Criterion.comparesNull, Operand.hasNull]
          cases null : value.isNull with
          | true => rw [takes null]; rfl
          | false => exact Bool.and_false _
        rw [same, Criterion.refusal?, refused]
        exact failsWith_lowerTest_single writes position column binary value
  | list column comparator values h =>
      have passed : Criterion.refusal? ⟨column, comparator, .list values⟩ = none := by
        simp [Criterion.refusal?, Criterion.comparesNull, Operand.hasNull]
      rw [passed]
      exact failsWith_lowerTest_list writes position column h values
  | range column low high => exact failsWith_lowerTest_range writes position column low high
  | unary column comparator unary =>
      rw [Criterion.refusal?_none]
      exact failsWith_lowerTest_unary position column unary

mutual

/-- A part is refused as the first of its tests that is. -/
theorem failsWith_lowerPart (writes : m.conversions.WritesAll) (position : Nat) :
    ∀ part : CriteriaPart, (∀ c ∈ part.tests, c.Built) →
      FailsWith (m.lowerPart table position part) (part.tests.findSome? Criterion.refusal?)
  | .test _ criterion, built => by
      have test : FailsWith (m.lowerTest table position criterion) criterion.refusal? :=
        failsWith_lowerTest writes position (built criterion (List.mem_singleton_self _))
      rw [CriteriaPart.tests, List.findSome?_singleton, lowerPart]
      exact test.bind_ok fun lowered => ⟨_, rfl⟩
  | .group _ parts, built => by
      rw [CriteriaPart.tests, lowerPart]
      exact (failsWith_lowerParts writes position none parts built).bind_ok fun lowered => ⟨_, rfl⟩

/-- A chain is refused as the first of its tests that is, at any depth. -/
theorem failsWith_lowerParts (writes : m.conversions.WritesAll) (position : Nat)
    (before : Option Condition) :
    ∀ parts : List CriteriaPart, (∀ c ∈ chainTests parts, c.Built) →
      FailsWith (m.lowerParts table position before parts)
        ((chainTests parts).findSome? Criterion.refusal?)
  | [], _ => .of_ok rfl
  | part :: rest, built => by
      obtain ⟨first, later⟩ := List.forall_mem_append.mp built
      rw [chainTests, List.findSome?_append, lowerParts]
      refine (failsWith_lowerPart writes position part first).bind fun lowered _ => ?_
      exact (failsWith_lowerParts writes _ _ rest later).bind_ok fun more => ⟨_, rfl⟩

end

theorem failsWith_lowerCriteria (writes : m.conversions.WritesAll) (table : Identifier)
    (position : Nat) {c : Criteria} (built : c.Built) :
    FailsWith (m.lowerCriteria table position c) (chainRefusal? c.parts) :=
  failsWith_lowerParts writes position none c.parts (Criteria.built_of_mem_tests built)

/-! ## Specifications -/

/-- A row has as many entries as columns. -/
theorem length_bindRow {position : Nat} {row : List (Identifier × Settable)} {entries : Plan}
    (h : m.bindRow position row = .ok entries) : entries.length = row.length := by
  have lengths := congrArg List.length (markers_bindRow h)
  rwa [Plan.markers, Markers.length_run, List.length_map, List.length_map] at lengths

/-- Lowered assignments assign to the same columns. -/
theorem columns_of_lowerAssignments {position : Nat} {assignments : List (Identifier × Assignment)}
    {assigned : List (Identifier × AssignedValue)} {entries : Plan}
    (h : m.lowerAssignments position assignments = .ok (assigned, entries)) :
    assigned.map (·.1) = assignments.map (·.1) := by
  induction assignments generalizing position assigned entries with
  | nil =>
      cases h
      rfl
  | cons assignment rest ih =>
      obtain ⟨column, value⟩ := assignment
      cases value with
      | null =>
          rw [lowerAssignments] at h
          obtain ⟨⟨others, more⟩, hrest, h⟩ := Outcome.bind_eq_ok.mp h
          cases h
          exact congrArg _ (ih hrest)
      | value value =>
          rw [lowerAssignments] at h
          obtain ⟨entry, -, h⟩ := Outcome.bind_eq_ok.mp h
          obtain ⟨⟨others, more⟩, hrest, h⟩ := Outcome.bind_eq_ok.mp h
          cases h
          exact congrArg _ (ih hrest)

/-- An insertion is refused when it has no column.  It never lacks a value for one. -/
theorem failsWith_mapInsert (writes : m.conversions.WritesAll) (s : InsertSpec) :
    FailsWith (m.mapInsert s) ((Spec.insert s).refusal? m.dialect) := by
  rw [mapInsert, lowerInsert, bind_assoc]
  refine (failsWith_bindRow writes 0 s.row.entries).bind fun entries bound => ?_
  have values : s.row.columns.length = (entries.map (·.1)).length := by
    rw [OutboundRow.columns, List.length_map, List.length_map, length_bindRow bound]
  have written := InsertStatement.failsWith_sql m.dialect ⟨s.table, s.row.columns, _⟩ values
  rw [OutboundRow.columns, List.isEmpty_map] at written
  exact written.map _

/-- An update is refused as its criteria are, or for having nothing to assign. -/
theorem failsWith_mapUpdate (writes : m.conversions.WritesAll) {s : UpdateSpec}
    (built : s.criteria.Built) :
    FailsWith (m.mapUpdate s) ((Spec.update s).refusal? m.dialect) := by
  rw [mapUpdate, lowerUpdate, bind_assoc]
  refine (failsWith_lowerAssignments writes 0 s.assignments.entries).bind fun lowered bound => ?_
  rw [bind_assoc]
  refine (failsWith_lowerCriteria writes s.table _ built).bind fun condition _ => ?_
  have written := UpdateStatement.failsWith_sql m.dialect ⟨s.table, lowered.1, condition.1⟩
  have columns := congrArg List.isEmpty (columns_of_lowerAssignments bound)
  rw [List.isEmpty_map, List.isEmpty_map] at columns
  rw [columns] at written
  exact written.map _

/-- A specification with built criteria is refused for the reasons it gives, and for no other. -/
theorem failsWith_map (writes : m.conversions.WritesAll) {spec : Spec}
    (built : spec.criteria.Built) : FailsWith (m.map spec) (spec.refusal? m.dialect) := by
  cases spec with
  | select s =>
      change FailsWith (m.lowerSelect s >>= m.finish) _
      rw [lowerSelect, bind_assoc]
      exact (failsWith_lowerCriteria writes s.table 0 built).bind_ok fun lowered => ⟨_, rfl⟩
  | insert s => exact failsWith_mapInsert writes s
  | update s => exact failsWith_mapUpdate writes built
  | delete s =>
      change FailsWith (m.lowerDelete s >>= m.finish) _
      rw [lowerDelete, bind_assoc]
      exact (failsWith_lowerCriteria writes s.table 0 built).bind_ok fun lowered => ⟨_, rfl⟩

/-- In a built-in dialect without converters of a user, a specification with built criteria
is not mapped exactly when it compares a column with the NULL at some depth, has no column to
insert or nothing to assign.  The error is the one it gives, and says that there is no text.
It never says that an operator does not take its operand or that values are lacking. -/
theorem fails_iff_refused {d : Dialect} (known : d ∈ Dialect.builtIn) {spec : Spec}
    (built : spec.criteria.Built) :
    ((∃ e, (ofDialect d).map spec = .error e) ↔ spec.Refused) ∧
      ∀ e, (ofDialect d).map spec = .error e →
        spec.refusal? d = some e ∧ ∃ fault sql, e = .render fault sql ∧
          (∀ operator operand column, fault ≠ .operandShape operator operand column) ∧
          ∀ columns values, fault ≠ .columnCount columns values := by
  have mapped : FailsWith ((ofDialect d).map spec) (spec.refusal? d) :=
    failsWith_map (m := ofDialect d) (Dialect.writesAll known) built
  constructor
  · rw [← Spec.isSome_refusal? d, Option.isSome_iff_exists]
    exact exists_congr fun e => mapped.eq_error_iff
  · intro e failed
    have given := mapped.eq_error_iff.mp failed
    refine ⟨given, ?_⟩
    obtain ⟨c, -, -, rfl⟩ | rfl | ⟨front, rfl⟩ := Spec.cases_of_refusal? given
    · exact ⟨_, _, rfl, nofun, nofun⟩
    · exact ⟨_, _, rfl, nofun, nofun⟩
    · exact ⟨_, _, rfl, nofun, nofun⟩

/-- A DELETE with a range that ends with the NULL in a group, behind a test for the NULL. -/
theorem fails_iff_refused_range :
    let range := Criteria.empty.addTest .and ⟨.ofText "b", .between, .range (.int 1) .null⟩
    let c := (Criteria.empty.addTest .and (.ofSingle (.ofText "a") .eq .null)).addGroup .or range
    let spec : Spec := .delete ⟨.unquoted "t", c⟩
    Dialect.mysql ∈ Dialect.builtIn ∧ spec.criteria.Built ∧ spec.Refused ∧
      ∃ e, (ofDialect .mysql).map spec = .error e := by
  intro range c spec
  have known : Dialect.mysql ∈ Dialect.builtIn := by simp [Dialect.builtIn]
  have joins : Join.and ≠ .initial ∧ Join.or ≠ .initial := by decide
  have single : Criterion.Built (.ofSingle (.ofText "a") .eq .null) :=
    .single _ .eq .null (by decide)
  have built : spec.criteria.Built :=
    .addGroup (.addTest .empty .and joins.1 single) .or joins.2
      (.addTest .empty .and joins.1 (.range _ _ _))
  have refused : spec.Refused :=
    ⟨⟨.ofText "b", .between, .range (.int 1) .null⟩, .tail _ (.head _), rfl⟩
  exact ⟨known, built, refused, (fails_iff_refused known built).1.mpr refused⟩

end StatementMapper

end DataMapper
