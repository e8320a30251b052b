import DataMapper.Proofs.Statement.Markers
import DataMapper.Proofs.Template.Expansion

/-!
# Texts and values

The text of an operation and its markers do not depend on the values that are bound.

Two specifications differ only in values when they are the same once every value is
replaced by the NULL (`Spec.blank`).  What is left is the tables and columns, the
operators, the number of values in each list, the joins and groups, the words NULL that
are assigned, the order and the page.  A mapper makes the same statement of both, if it
makes one of each (`StatementMapper.statement_eq_of_blank`): the text of a condition comes
from what is left, and its markers are counted.  What converters write does not matter,
not even where they write the NULL.

An expansion writes the segments of its template with markers for the names, and its
values are in the plan only.
-/

namespace DataMapper

/-! ## Without values -/

def Operand.blank : Operand → Operand
  | none => none
  | single _ => single .null
  | list values => list (values.map fun _ => .null)
  | range _ _ => range .null .null

def Criterion.blank (c : Criterion) : Criterion := { c with operand := c.operand.blank }

mutual

def CriteriaPart.blank : CriteriaPart → CriteriaPart
  | .test join criterion => .test join criterion.blank
  | .group join parts => .group join (CriteriaPart.blanks parts)

def CriteriaPart.blanks : List CriteriaPart → List CriteriaPart
  | [] => []
  | part :: rest => part.blank :: CriteriaPart.blanks rest

end

def Criteria.blank (c : Criteria) : Criteria := ⟨CriteriaPart.blanks c.parts⟩

/-- A bound value without the value and its type.  The word NULL is no value. -/
def Assignment.blank : Assignment → Assignment
  | value _ => value (.empty .text)
  | null => null

def Assignments.blank (a : Assignments) : Assignments :=
  ⟨a.entries.map fun entry => (entry.1, entry.2.blank)⟩

def OutboundRow.blank (row : OutboundRow) : OutboundRow :=
  ⟨row.entries.map fun entry => (entry.1, .empty .text)⟩

/-- A specification with every value replaced by the NULL. -/
def Spec.blank : Spec → Spec
  | select s => select { s with criteria := s.criteria.blank }
  | insert s => insert { s with row := s.row.blank }
  | update s => update { s with assignments := s.assignments.blank, criteria := s.criteria.blank }
  | delete s => delete { s with criteria := s.criteria.blank }

theorem CriteriaPart.blanks_eq_map (parts : List CriteriaPart) :
    blanks parts = parts.map blank := by
  induction parts with
  | nil => rfl
  | cons part rest ih => rw [blanks, ih, List.map_cons]

/-- A chain that is a chain with a last part without values has a last part. -/
theorem CriteriaPart.exists_of_blanks_concat {parts others : List CriteriaPart}
    {part : CriteriaPart} (same : blanks (parts ++ [part]) = blanks others) :
    ∃ past last, others = past ++ [last] ∧ blanks parts = blanks past ∧
      part.blank = last.blank := by
  simp only [blanks_eq_map, List.map_append, List.map_singleton] at same ⊢
  obtain ⟨past, ends, rfl, hpast, hends⟩ := List.map_eq_append_iff.mp same.symm
  obtain ⟨last, rfl, hlast⟩ := List.map_eq_singleton_iff.mp hends
  exact ⟨past, last, rfl, hpast.symm, hlast.symm⟩

theorem CriteriaPart.exists_of_blank_test {join : Join} {c : Criterion} {last : CriteriaPart}
    (same : (test join c).blank = last.blank) : ∃ d, last = .test join d ∧ c.blank = d.blank := by
  cases last with
  | test other d =>
      simp only [blank, CriteriaPart.test.injEq] at same
      obtain ⟨rfl, same⟩ := same
      exact ⟨d, rfl, same⟩
  | group other parts => cases same

theorem CriteriaPart.exists_of_blank_group {join : Join} {parts : List CriteriaPart}
    {last : CriteriaPart} (same : (group join parts).blank = last.blank) :
    ∃ others, last = .group join others ∧ blanks parts = blanks others := by
  cases last with
  | test other d => cases same
  | group other others =>
      simp only [blank, CriteriaPart.group.injEq] at same
      obtain ⟨rfl, same⟩ := same
      exact ⟨others, rfl, same⟩

namespace Operand

theorem exists_of_blank_list {values : List Value} {other : Operand}
    (same : (list values).blank = other.blank) :
    ∃ others, other = list others ∧ values.length = others.length := by
  cases other with
  | list others =>
      refine ⟨others, rfl, ?_⟩
      have lengths := congrArg List.length (Operand.list.inj same)
      rwa [List.length_map, List.length_map] at lengths
  | _ => cases same

theorem exists_of_blank_single {value : Value} {other : Operand}
    (same : (single value).blank = other.blank) : ∃ another, other = single another := by
  cases other with
  | single another => exact ⟨another, rfl⟩
  | _ => cases same

theorem exists_of_blank_range {low high : Value} {other : Operand}
    (same : (range low high).blank = other.blank) : ∃ l h, other = range l h := by
  cases other with
  | range l h => exact ⟨l, h, rfl⟩
  | _ => cases same

end Operand

/-! ## Lowered without values -/

namespace StatementMapper

variable {m : StatementMapper}

/-- Tests that differ only in values become the same condition. -/
theorem condition_eq_of_blank {table : Identifier} {position : Nat} {c d : Criterion}
    {condition other : Condition} {entries more : Plan} (same : c.blank = d.blank)
    (hc : LowersTest m table position c condition entries)
    (hd : LowersTest m table position d other more) : condition = other := by
  obtain ⟨column, comparator, operand⟩ := c
  obtain ⟨_, _, operand'⟩ := d
  simp only [Criterion.blank, Criterion.mk.injEq] at same
  obtain ⟨rfl, rfl, same⟩ := same
  cases hc with
  | unary unary =>
      cases hd with
      | unary _ => rfl
      | comparison binary _ _ =>
          rw [unary] at binary
          cases binary
      | _ => cases unary
  | emptyIn =>
      obtain ⟨values, rfl, length⟩ := Operand.exists_of_blank_list same
      cases hd with
      | unary unary => cases unary
      | emptyIn => rfl
      | isIn filled _ => exact absurd (List.length_eq_zero_iff.mp length.symm) filled
  | emptyNotIn =>
      obtain ⟨values, rfl, length⟩ := Operand.exists_of_blank_list same
      cases hd with
      | unary unary => cases unary
      | emptyNotIn => rfl
      | notIn filled _ => exact absurd (List.length_eq_zero_iff.mp length.symm) filled
  | isIn filled hentries =>
      obtain ⟨values, rfl, length⟩ := Operand.exists_of_blank_list same
      cases hd with
      | unary unary => cases unary
      | emptyIn => exact absurd (List.length_eq_zero_iff.mp length) filled
      | isIn _ hmore => rw [markers_bindOperands hentries, markers_bindOperands hmore, length]
  | notIn filled hentries =>
      obtain ⟨values, rfl, length⟩ := Operand.exists_of_blank_list same
      cases hd with
      | unary unary => cases unary
      | emptyNotIn => exact absurd (List.length_eq_zero_iff.mp length) filled
      | notIn _ hmore => rw [markers_bindOperands hentries, markers_bindOperands hmore, length]
  | between _ _ hlow hhigh =>
      obtain ⟨low, high, rfl⟩ := Operand.exists_of_blank_range same
      cases hd with
      | unary unary => cases unary
      | between _ _ hlow' hhigh' =>
          obtain ⟨-, -, rfl⟩ := bindOperand_eq_ok.mp hlow
          obtain ⟨-, -, rfl⟩ := bindOperand_eq_ok.mp hhigh
          obtain ⟨-, -, rfl⟩ := bindOperand_eq_ok.mp hlow'
          obtain ⟨-, -, rfl⟩ := bindOperand_eq_ok.mp hhigh'
          rfl
  | comparison binary _ hentry =>
      obtain ⟨value, rfl⟩ := Operand.exists_of_blank_single same
      cases hd with
      | unary unary =>
          rw [unary] at binary
          cases binary
      | comparison _ _ hother =>
          obtain ⟨-, -, rfl⟩ := bindOperand_eq_ok.mp hentry
          obtain ⟨-, -, rfl⟩ := bindOperand_eq_ok.mp hother
          rfl

/-- Chains that became the same condition have as many entries. -/
theorem length_eq_of_lowers {table : Identifier} {position : Nat} {parts others : List CriteriaPart}
    {condition : Option Condition} {entries more : Plan}
    (h : Lowers m table position parts condition entries)
    (h' : Lowers m table position others condition more) : entries.length = more.length :=
  Plan.length_eq_of_markers ((markers_of_lowers h).symm.trans (markers_of_lowers h'))

/-- Chains that differ only in values become the same condition. -/
theorem condition_eq_of_blanks {table : Identifier} {position : Nat}
    {parts others : List CriteriaPart} {condition other : Option Condition} {entries more : Plan}
    (same : CriteriaPart.blanks parts = CriteriaPart.blanks others)
    (h : Lowers m table position parts condition entries)
    (h' : Lowers m table position others other more) : condition = other := by
  -- The induction is on how one chain was lowered.  How the other one was is read off at its
  -- last part, which begins at the same position since the chains before it agree.
  induction h generalizing others other more with
  | nil =>
      rw [CriteriaPart.blanks_eq_map, CriteriaPart.blanks_eq_map, List.map_nil] at same
      cases List.map_eq_nil_iff.mp same.symm
      exact h'.of_nil.symm
  | test join past htest ih =>
      obtain ⟨parts', last, rfl, hparts, hlast⟩ := CriteriaPart.exists_of_blanks_concat same
      obtain ⟨d, rfl, hd⟩ := CriteriaPart.exists_of_blank_test hlast
      obtain ⟨before, entries', _, tested, past', htest', rfl⟩ := h'.of_test
      obtain rfl := ih hparts past'
      rw [← length_eq_of_lowers past past'] at htest'
      rw [condition_eq_of_blank hd htest htest']
  | group join past hinner ih ihInner | emptyGroup join past hinner ih ihInner =>
      obtain ⟨parts', last, rfl, hparts, hlast⟩ := CriteriaPart.exists_of_blanks_concat same
      obtain ⟨inner', rfl, hinner'⟩ := CriteriaPart.exists_of_blank_group hlast
      obtain ⟨before, entries', _, nested, past', lowered, rfl⟩ := h'.of_group
      obtain rfl := ih hparts past'
      rw [← length_eq_of_lowers past past'] at lowered
      rw [← ihInner hinner' lowered]

/-- Rows that differ only in values have the same columns with the same markers. -/
theorem markers_eq_of_blank {row other : OutboundRow} {position : Nat} {entries more : Plan}
    (same : row.blank = other.blank) (h : m.bindRow position row.entries = .ok entries)
    (h' : m.bindRow position other.entries = .ok more) :
    row.columns = other.columns ∧ entries.markers = more.markers := by
  have columns := congrArg (List.map Prod.fst) (OutboundRow.mk.inj same)
  have hints := congrArg (List.map fun cell => some cell.1.name) (OutboundRow.mk.inj same)
  rw [List.map_map, List.map_map] at columns hints
  exact ⟨columns, by rw [markers_bindRow h, markers_bindRow h']; exact congrArg _ hints⟩

/-- Assignments that differ only in values become the same. -/
theorem assigned_eq_of_blank {assignments others : List (Identifier × Assignment)}
    {position : Nat} {assigned assigned' : List (Identifier × AssignedValue)} {entries more : Plan}
    (same : (assignments.map fun entry => (entry.1, entry.2.blank))
      = others.map fun entry => (entry.1, entry.2.blank))
    (h : m.lowerAssignments position assignments = .ok (assigned, entries))
    (h' : m.lowerAssignments position others = .ok (assigned', more)) : assigned = assigned' := by
  induction assignments generalizing others position assigned assigned' entries more with
  | nil =>
      cases List.map_eq_nil_iff.mp same.symm
      cases h
      cases h'
      rfl
  | cons assignment rest ih =>
      obtain ⟨⟨column, value⟩, others, rfl, head, tail⟩ := List.map_eq_cons_iff.mp same.symm
      obtain ⟨column', value'⟩ := assignment
      obtain ⟨rfl, blank⟩ := Prod.mk.inj head
      cases value' with
      | null =>
          cases value with
          | value _ => cases blank
          | null =>
              obtain ⟨⟨a, p⟩, hrest, h⟩ := Outcome.bind_eq_ok.mp h
              obtain ⟨⟨a', p'⟩, hrest', h'⟩ := Outcome.bind_eq_ok.mp h'
              cases h
              cases h'
              rw [ih tail.symm hrest hrest']
      | value v =>
          cases value with
          | null => cases blank
          | value v' =>
              obtain ⟨entry, hentry, h⟩ := Outcome.bind_eq_ok.mp h
              obtain ⟨⟨a, p⟩, hrest, h⟩ := Outcome.bind_eq_ok.mp h
              obtain ⟨entry', hentry', h'⟩ := Outcome.bind_eq_ok.mp h'
              obtain ⟨⟨a', p'⟩, hrest', h'⟩ := Outcome.bind_eq_ok.mp h'
              cases h
              cases h'
              obtain ⟨-, -, rfl⟩ := bind_eq_ok.mp hentry
              obtain ⟨-, -, rfl⟩ := bind_eq_ok.mp hentry'
              rw [ih tail.symm hrest hrest']

/-- Criteria that differ only in values become the same condition. -/
theorem condition_eq_of_lowerCriteria {table : Identifier} {position : Nat} {c d : Criteria}
    {condition other : Option Condition} {entries more : Plan} (same : c.blank = d.blank)
    (hc : m.lowerCriteria table position c = .ok (condition, entries))
    (hd : m.lowerCriteria table position d = .ok (other, more)) : condition = other :=
  condition_eq_of_blanks (Criteria.mk.inj same) (lowers_of_eq_ok hc) (lowers_of_eq_ok hd)

/-- Specifications that differ only in values become the same statement. -/
theorem statement_eq_of_blank {a b : Spec} {statement other : Statement} {plan more : Plan}
    (same : a.blank = b.blank) (ha : m.lower a = .ok (statement, plan))
    (hb : m.lower b = .ok (other, more)) : statement = other := by
  cases a with
  | select s =>
      cases b with
      | select t =>
          obtain ⟨⟨condition, entries⟩, hs, ha⟩ := Outcome.bind_eq_ok.mp ha
          obtain ⟨⟨condition', entries'⟩, ht, hb⟩ := Outcome.bind_eq_ok.mp hb
          cases ha
          cases hb
          obtain ⟨table, projection, criteria, sort, limit, offset, distinct⟩ := s
          obtain ⟨_, _, criteria', _, _, _, _⟩ := t
          simp only [Spec.blank, Spec.select.injEq, SelectSpec.mk.injEq] at same
          obtain ⟨rfl, rfl, same, rfl, rfl, rfl, rfl⟩ := same
          rw [condition_eq_of_lowerCriteria same hs ht]
      | _ => cases same
  | insert s =>
      cases b with
      | insert t =>
          obtain ⟨entries, hs, ha⟩ := Outcome.bind_eq_ok.mp ha
          obtain ⟨entries', ht, hb⟩ := Outcome.bind_eq_ok.mp hb
          cases ha
          cases hb
          obtain ⟨table, row⟩ := s
          obtain ⟨_, row'⟩ := t
          simp only [Spec.blank, Spec.insert.injEq, InsertSpec.mk.injEq] at same
          obtain ⟨rfl, same⟩ := same
          obtain ⟨columns, markers⟩ := markers_eq_of_blank same hs ht
          exact congrArg Statement.insert (congrArg₂ (InsertStatement.mk table) columns markers)
      | _ => cases same
  | update s =>
      cases b with
      | update t =>
          obtain ⟨⟨assigned, entries⟩, hs, ha⟩ := Outcome.bind_eq_ok.mp ha
          obtain ⟨⟨condition, rest⟩, hcriteria, ha⟩ := Outcome.bind_eq_ok.mp ha
          obtain ⟨⟨assigned', entries'⟩, ht, hb⟩ := Outcome.bind_eq_ok.mp hb
          obtain ⟨⟨condition', rest'⟩, hcriteria', hb⟩ := Outcome.bind_eq_ok.mp hb
          cases ha
          cases hb
          obtain ⟨table, assignments, criteria⟩ := s
          obtain ⟨_, assignments', criteria'⟩ := t
          simp only [Spec.blank, Spec.update.injEq, UpdateSpec.mk.injEq] at same
          obtain ⟨rfl, hassignments, hblank⟩ := same
          obtain rfl := assigned_eq_of_blank (Assignments.mk.inj hassignments) hs ht
          have markers : entries.markers = entries'.markers :=
            (markers_of_lowerAssignments hs).1.symm.trans (markers_of_lowerAssignments ht).1
          rw [← Plan.length_eq_of_markers markers] at hcriteria'
          rw [condition_eq_of_lowerCriteria hblank hcriteria hcriteria']
      | _ => cases same
  | delete s =>
      cases b with
      | delete t =>
          obtain ⟨⟨condition, entries⟩, hs, ha⟩ := Outcome.bind_eq_ok.mp ha
          obtain ⟨⟨condition', entries'⟩, ht, hb⟩ := Outcome.bind_eq_ok.mp hb
          cases ha
          cases hb
          obtain ⟨table, criteria⟩ := s
          obtain ⟨_, criteria'⟩ := t
          simp only [Spec.blank, Spec.delete.injEq, DeleteSpec.mk.injEq] at same
          obtain ⟨rfl, same⟩ := same
          rw [condition_eq_of_lowerCriteria same hs ht]
      | _ => cases same

/-- Operations of specifications that differ only in values have the same text and the same
markers. -/
theorem sql_eq_of_blank {a b : Spec} {x y : Operation} (same : a.blank = b.blank)
    (ha : m.map a = .ok x) (hb : m.map b = .ok y) :
    x.sql = y.sql ∧ x.plan.markers = y.plan.markers := by
  obtain ⟨statement, sql, lowered, written, text⟩ := exists_of_map_eq_ok ha
  obtain ⟨other, sql', lowered', written', text'⟩ := exists_of_map_eq_ok hb
  obtain rfl := statement_eq_of_blank same lowered lowered'
  cases written.symm.trans written'
  have markers : x.plan.markers = y.plan.markers :=
    (markers_of_lower lowered).1.symm.trans (markers_of_lower lowered').1
  exact ⟨text.trans text'.symm, markers⟩

end StatementMapper

/-! ## Texts without values -/

/-- Texts and markers never depend on values.  Specifications that differ only in values have
the same text and the same markers wherever both are mapped, with any dialect and any
converters.  A template is expanded to the same text with the same markers by any two
providers that have values for all its names, with any factory whose names can be cut to their
length.  No other factory can hand out a marker. -/
theorem text_eq_of_blank :
    (∀ (m : StatementMapper) (a b : Spec), a.blank = b.blank →
        ∀ x y, m.map a = .ok x → m.map b = .ok y →
          x.sql = y.sql ∧ x.plan.markers = y.plan.markers) ∧
      ∀ (t : Template) (factory : MarkerFactory) (p q : Provider),
        (∀ question ∈ t.questions, p.Answers question) →
        (∀ question ∈ t.questions, q.Answers question) →
          ∃ x y, t.expand factory p = .ok x ∧ t.expand factory q = .ok y ∧
            x.sql = y.sql ∧ x.plan.markers = y.plan.markers := by
  refine ⟨fun m a b same x y ha hb => StatementMapper.sql_eq_of_blank same ha hb, ?_⟩
  intro t factory p q hp hq
  obtain ⟨x, hx, text, markers⟩ := t.exists_expand factory hp
  obtain ⟨y, hy, text', markers'⟩ := t.exists_expand factory hq
  exact ⟨x, y, hx, hy, text.trans text'.symm, markers.trans markers'.symm⟩

/-- Two UPDATEs, of which one binds the NULL, and two expansions with other values. -/
theorem text_eq_of_blank_update :
    let m := StatementMapper.ofDialect .mysql
    let spec (bound : Settable) (values : List Value) : Spec := .update {
      table := .unquoted "t"
      assignments := ⟨[(.unquoted "a", .value bound), (.unquoted "b", .null)]⟩
      criteria := ⟨[.test .initial ⟨.ofText "c", .isIn, .list values⟩]⟩ }
    let a := spec (.empty .text) [.int 1, .null]
    let b := spec (.ofValue (.bool true) .boolean) [.text "'; --", .int 2]
    let t := Template.parse "c = :x OR c = :x"
    a.blank = b.blank ∧
      (∃ x y, m.map a = .ok x ∧ m.map b = .ok y ∧
        x.sql = "UPDATE t SET a = ?, b = NULL WHERE t.c IN (?, ?)" ∧
        x.sql = y.sql ∧ x.plan.markers = y.plan.markers) ∧
      ∃ x y, t.expand m.dialect.markers (fun _ _ => some (.empty .text)) = .ok x ∧
        t.expand m.dialect.markers (fun _ _ => some (.ofValue (.int 1) .integer)) = .ok y ∧
        x.sql = y.sql ∧ x.plan.markers = y.plan.markers := by
  intro m spec a b t
  refine ⟨rfl, ⟨_, _, rfl, rfl, rfl, text_eq_of_blank.1 m a b rfl _ _ rfl rfl⟩, ?_⟩
  exact text_eq_of_blank.2 t m.dialect.markers _ _ (fun _ _ => rfl) fun _ _ => rfl

end DataMapper
