import DataMapper.Proofs.Condition.Meaning
import DataMapper.Proofs.Condition.Precedence

/-!
# The clause of a chain

A chain has the chains of its groups inside it, at any depth (`IsLevel`).  When it was
built by adding tests and groups, each of them begins with the part that joins nothing,
and no group is empty (`Criteria.orderly_of_built`).

Lowering a chain lowers its tests one after the other (`StatementMapper.LowersTests`).  The
atomic conditions of the tree, from left to right, are what the tests become, and so are the
atomic tokens that are written.  No test is lost and none is written twice, for an empty group
has none.

A statement is written around its WHERE clause, so that the statement without criteria has
the same text without the clause (`Statement.exists_sql`).
-/

namespace DataMapper

/-! ## Levels -/

/-- Whether a chain is another or the chain of a group in it, at any depth. -/
inductive IsLevel : List CriteriaPart → List CriteriaPart → Prop where
  | self (parts : List CriteriaPart) : IsLevel parts parts
  | group {parts inner level : List CriteriaPart} {join : Join}
      (here : .group join inner ∈ parts) (inside : IsLevel inner level) : IsLevel parts level

/-- Whether the first part of a chain joins nothing, every later one joins by AND or by OR,
and no group of the chain is empty. -/
structure Orderly (level : List CriteriaPart) : Prop where
  first : ∀ part, level.head? = some part → part.join = .initial
  later : ∀ part ∈ level.tail, part.join = .and ∨ part.join = .or
  filled : ∀ join inner, .group join inner ∈ level → inner ≠ []

/-- A part is added at the end with the join that a chain gives it. -/
theorem Orderly.concat {c : Criteria} (h : Orderly c.parts) {join : Join} (hjoin : join ≠ .initial)
    {part : CriteriaPart} (asked : part.join = c.joinAt join)
    (filled : ∀ other inner, part = .group other inner → inner ≠ []) :
    Orderly (c.parts ++ [part]) := by
  have groups : ∀ other inner, .group other inner ∈ c.parts ++ [part] → inner ≠ [] := by
    intro other inner here
    rcases List.mem_append.mp here with old | new
    · exact h.filled other inner old
    · exact filled other inner (List.mem_singleton.mp new).symm
  obtain ⟨parts⟩ := c
  cases parts with
  | nil =>
      refine ⟨fun first hfirst => ?_, nofun, groups⟩
      cases hfirst
      exact asked
  | cons head rest =>
      refine ⟨h.first, fun later hlater => ?_, groups⟩
      rcases List.mem_append.mp hlater with old | new
      · exact h.later later old
      · rw [List.mem_singleton.mp new, asked]
        cases join with
        | initial => exact absurd rfl hjoin
        | and => exact .inl rfl
        | or => exact .inr rfl

/-- Every level of a built chain is orderly. -/
theorem Criteria.orderly_of_built {c : Criteria} (built : c.Built) :
    ∀ level, IsLevel c.parts level → Orderly level := by
  induction built with
  | empty =>
      intro level h
      cases h with
      | self => exact ⟨nofun, nofun, nofun⟩
      | group here _ => cases here
  | addTest past join hjoin test ih =>
      intro level h
      cases h with
      | self => exact (ih _ (.self _)).concat hjoin rfl nofun
      | group here inside =>
          rcases List.mem_append.mp here with old | new
          · exact ih level (.group old inside)
          · cases List.mem_singleton.mp new
  | @addGroup c group past join hjoin inner ih ihInner =>
      intro level h
      by_cases empty : group.isEmpty = true
      · rw [addGroup, if_pos empty] at h
        exact ih level h
      · rw [addGroup, if_neg empty] at h
        cases h with
        | self =>
            refine (ih _ (.self _)).concat hjoin rfl fun other parts same => ?_
            cases same
            exact fun none => empty (List.isEmpty_iff.mpr none)
        | group here inside =>
            rcases List.mem_append.mp here with old | new
            · exact ih level (.group old inside)
            · cases List.mem_singleton.mp new
              exact ihInner level inside

/-! ## Tests and atomic conditions -/

mutual

/-- The tests of a part, from left to right. -/
def CriteriaPart.tests : CriteriaPart → List Criterion
  | .test _ criterion => [criterion]
  | .group _ parts => chainTests parts

/-- The tests of a chain, from left to right. -/
def chainTests : List CriteriaPart → List Criterion
  | [] => []
  | part :: rest => part.tests ++ chainTests rest

end

/-- The tests of criteria, from left to right. -/
def Criteria.tests (c : Criteria) : List Criterion := chainTests c.parts

theorem chainTests_append (parts : List CriteriaPart) (last : CriteriaPart) :
    chainTests (parts ++ [last]) = chainTests parts ++ last.tests := by
  induction parts with
  | nil => exact List.append_nil _
  | cons part rest ih => rw [List.cons_append, chainTests, chainTests, ih, List.append_assoc]

/-- The atomic conditions of a tree, from left to right. -/
def Condition.atoms : Condition → List Condition
  | nested inner => inner.atoms
  | and left right | or left right => left.atoms ++ right.atoms
  | condition => [condition]

theorem Condition.atoms_of_isAtom {c : Condition} (h : c.isAtom = true) : c.atoms = [c] := by
  cases c <;> first | rfl | cases h

/-- The atomic conditions of a clause, none when there is no condition. -/
def clauseAtoms : Option Condition → List Condition
  | some condition => condition.atoms
  | none => []

/-- The tokens of a clause, none when there is no condition. -/
def clauseTokens (d : Dialect) : Option Condition → List ConditionToken
  | some condition => condition.tokens d
  | none => []

/-- The text of an atomic condition, if a token is one. -/
def ConditionToken.atom? : ConditionToken → Option Sql
  | atom sql => some sql
  | _ => none

/-- The atomic tokens of a written tree are its atomic conditions. -/
theorem Condition.filterMap_tokens (d : Dialect) (c : Condition) :
    (c.tokens d).filterMap ConditionToken.atom? = c.atoms.map (atomSql d) := by
  induction c with
  | nested inner ih =>
      rw [tokens, List.cons_append, List.filterMap_cons, List.filterMap_append, ih]
      exact List.append_nil _
  | and left right ihLeft ihRight | or left right ihLeft ihRight =>
      rw [tokens, List.filterMap_append, List.filterMap_cons, ihLeft, ihRight, atoms,
        List.map_append]
      rfl
  | _ => rfl

/-- The atomic tokens of a clause are its atomic conditions. -/
theorem filterMap_clauseTokens (d : Dialect) (condition : Option Condition) :
    (clauseTokens d condition).filterMap ConditionToken.atom?
      = (clauseAtoms condition).map (Condition.atomSql d) := by
  cases condition with
  | none => rfl
  | some condition => exact condition.filterMap_tokens d

/-- A clause is the word WHERE and the tokens, and nothing where there is no condition. -/
theorem whereClause_eq (d : Dialect) (condition : Option Condition) :
    whereClause d condition = if condition.isSome then
      .text " WHERE " :: (clauseTokens d condition).flatMap ConditionToken.sql else [] := by
  cases condition <;> rfl

namespace StatementMapper

variable {m : StatementMapper} {table : Identifier}

/-- What tests become one after the other, with their entries of the plan. -/
inductive LowersTests (m : StatementMapper) (table : Identifier) :
    Nat → List Criterion → List Condition → Plan → Prop where
  | nil {position : Nat} : LowersTests m table position [] [] []
  | cons {position : Nat} {c : Criterion} {tests : List Criterion} {atom : Condition}
      {atoms : List Condition} {entries more : Plan}
      (first : LowersTest m table position c atom entries)
      (rest : LowersTests m table (position + entries.length) tests atoms more) :
      LowersTests m table position (c :: tests) (atom :: atoms) (entries ++ more)

theorem LowersTests.append {position : Nat} {a b : List Criterion} {x y : List Condition}
    {p q : Plan} (ha : LowersTests m table position a x p)
    (hb : LowersTests m table (position + p.length) b y q) :
    LowersTests m table position (a ++ b) (x ++ y) (p ++ q) := by
  induction ha with
  | nil => exact hb
  | cons first rest ih =>
      rw [List.append_assoc]
      rw [List.length_append, ← Nat.add_assoc] at hb
      exact .cons first (ih hb)

/-- Joining puts the atomic conditions of the new condition behind those before it. -/
theorem atoms_joinCondition (before : Option Condition) (join : Join) (condition : Condition) :
    (joinCondition before join condition).atoms = clauseAtoms before ++ condition.atoms := by
  cases before with
  | none => rfl
  | some before => cases join <;> rfl

/-- A chain becomes a tree of what its tests become one after the other. -/
theorem lowersTests_of_lowers {position : Nat} {parts : List CriteriaPart}
    {condition : Option Condition} {entries : Plan}
    (h : Lowers m table position parts condition entries) :
    LowersTests m table position (chainTests parts) (clauseAtoms condition) entries := by
  induction h with
  | nil => exact .nil
  | test join past htest ih =>
      have one := LowersTests.cons htest .nil
      rw [List.append_nil] at one
      rw [clauseAtoms, atoms_joinCondition, chainTests_append,
        Condition.atoms_of_isAtom (isAtom_of_lowersTest htest)]
      exact ih.append one
  | group join past hinner ih ihInner =>
      rw [clauseAtoms, atoms_joinCondition, chainTests_append]
      exact ih.append ihInner
  | emptyGroup join past hinner ih ihInner =>
      rw [chainTests_append]
      have both := ih.append ihInner
      rw [clauseAtoms, List.append_nil] at both
      exact both

end StatementMapper

/-! ## Statements without a clause -/

/-- A statement without its condition. -/
def Statement.unrestricted : Statement → Statement
  | select s => select { s with condition := none }
  | insert s => insert s
  | update s => update { s with condition := none }
  | delete s => delete { s with condition := none }

/-- A specification without its criteria. -/
def Spec.unrestricted : Spec → Spec
  | select s => select { s with criteria := .empty }
  | insert s => insert s
  | update s => update { s with criteria := .empty }
  | delete s => delete { s with criteria := .empty }

/-- A statement is written around its WHERE clause. -/
theorem Statement.exists_sql {d : Dialect} {s : Statement} {sql : Sql} (h : s.sql d = .ok sql) :
    ∃ front back, sql = front ++ whereClause d s.condition ++ back ∧
      s.unrestricted.sql d = .ok (front ++ back) := by
  cases s with
  | select s =>
      cases h
      exact ⟨[_], [.text (s.tailText d)], rfl, rfl⟩
  | insert s =>
      refine ⟨sql, [], ?_, ?_⟩
      · rw [condition, whereClause, List.append_nil, List.append_nil]
      · rw [List.append_nil]
        exact h
  | update s =>
      simp only [Statement.sql, UpdateStatement.sql] at h
      split at h
      next => cases h
      next some =>
        cases h
        refine ⟨_, [], (List.append_nil _).symm, ?_⟩
        simp only [unrestricted, Statement.sql, UpdateStatement.sql, if_neg some]
        rfl
  | delete s =>
      cases h
      exact ⟨[_], [], (List.append_nil _).symm, rfl⟩

namespace StatementMapper

variable {m : StatementMapper}

/-- A specification without criteria is lowered to the statement without its condition, with
the entries that come before those of the condition. -/
theorem lower_unrestricted {spec : Spec} {statement : Statement} {plan : Plan}
    (h : m.lower spec = .ok (statement, plan)) :
    ∃ before entries, plan = before ++ entries ∧
      m.lower spec.unrestricted = .ok (statement.unrestricted, before) ∧
      Lowers m spec.table before.length spec.criteria.parts statement.condition entries := by
  cases spec with
  | select s =>
      obtain ⟨⟨condition, entries⟩, hcriteria, h⟩ := Outcome.bind_eq_ok.mp h
      cases h
      exact ⟨[], plan, rfl, rfl, lowers_of_eq_ok hcriteria⟩
  | insert s =>
      obtain ⟨entries, hrow, result⟩ := Outcome.bind_eq_ok.mp h
      cases result
      exact ⟨plan, [], (List.append_nil _).symm, h, .nil⟩
  | update s =>
      obtain ⟨⟨assigned, entries⟩, hassigned, h⟩ := Outcome.bind_eq_ok.mp h
      obtain ⟨⟨condition, more⟩, hcriteria, h⟩ := Outcome.bind_eq_ok.mp h
      cases h
      refine ⟨entries, more, rfl, ?_, lowers_of_eq_ok hcriteria⟩
      refine Outcome.bind_eq_ok.mpr ⟨(assigned, entries), hassigned, ?_⟩
      refine Outcome.bind_eq_ok.mpr ⟨(none, []), rfl, ?_⟩
      dsimp only
      rw [List.append_nil]
      rfl
  | delete s =>
      obtain ⟨⟨condition, entries⟩, hcriteria, h⟩ := Outcome.bind_eq_ok.mp h
      cases h
      exact ⟨[], plan, rfl, rfl, lowers_of_eq_ok hcriteria⟩

/-- In built criteria every level begins with the part that joins nothing, goes on with AND
and OR, and has no empty group.  So a statement with the criteria is the statement without
them with a clause put in, which is nothing exactly when the criteria are empty.  The atomic
tokens of the clause are what the tests become one after the other, each in its place. -/
theorem clause_of_map {c : Criteria} (built : c.Built) :
    (∀ level, IsLevel c.parts level → Orderly level) ∧
      ∀ (m : StatementMapper) (spec : Spec) (operation : Operation), spec.criteria = c →
        m.map spec = .ok operation →
          ∃ (front clause back : Sql) (tokens : List ConditionToken) (atoms : List Condition)
              (before entries : Plan),
            operation = ⟨Sql.text (front ++ clause ++ back), before ++ entries⟩ ∧
            m.map spec.unrestricted = .ok ⟨Sql.text (front ++ back), before⟩ ∧
            clause = (if c.isEmpty then [] else
              .text " WHERE " :: tokens.flatMap ConditionToken.sql) ∧
            LowersTests m spec.table before.length c.tests atoms entries ∧
            tokens.filterMap ConditionToken.atom? = atoms.map (Condition.atomSql m.dialect) := by
  refine ⟨Criteria.orderly_of_built built, ?_⟩
  rintro m spec ⟨text, plan⟩ rfl mapped
  obtain ⟨statement, sql, lowered, written, rfl⟩ := exists_of_map_eq_ok mapped
  obtain ⟨before, entries, rfl, bare, chain⟩ := lower_unrestricted lowered
  obtain ⟨front, back, rfl, bareSql⟩ := statement.exists_sql written
  have mirror : Mirrors m.dialect statement.condition spec.criteria := mirrors_of_lowers built chain
  refine ⟨front, whereClause m.dialect statement.condition, back,
    clauseTokens m.dialect statement.condition, clauseAtoms statement.condition, before, entries,
    rfl, ?_, ?_, lowersTests_of_lowers chain, filterMap_clauseTokens _ _⟩
  · rw [map_eq_lower]
    refine Outcome.bind_eq_ok.mpr ⟨(statement.unrestricted, before), bare, ?_⟩
    exact Outcome.map_eq_ok.mpr ⟨front ++ back, bareSql, rfl⟩
  · rw [whereClause_eq, mirror.isSome]
    cases spec.criteria.isEmpty <;> rfl

/-- A DELETE with a group that was added behind an empty one. -/
theorem clause_of_map_group :
    let m := ofDialect .mysql
    let group := (Criteria.empty.addTest .or (.ofSingle (.ofText "b") .lt (.int 3))).addTest .or
      ⟨.ofText "c", .isIn, .list []⟩
    let c := ((Criteria.empty.addTest .and (.ofSingle (.ofText "a") .eq .null)).addGroup .or
      .empty).addGroup .and group
    let spec : Spec := .delete ⟨.unquoted "t", c⟩
    ∃ operation, c.Built ∧ m.map spec = .ok operation ∧
      operation.sql = "DELETE FROM t WHERE t.a IS NULL AND (t.b < ? OR 1 = 0)" ∧
      IsLevel c.parts group.parts ∧ Orderly group.parts ∧
      ∃ (front clause back : Sql) (tokens : List ConditionToken) (atoms : List Condition)
          (before entries : Plan),
        operation = ⟨Sql.text (front ++ clause ++ back), before ++ entries⟩ ∧
        m.map spec.unrestricted = .ok ⟨Sql.text (front ++ back), before⟩ ∧
        clause = (if c.isEmpty then [] else
          .text " WHERE " :: tokens.flatMap ConditionToken.sql) ∧
        LowersTests m spec.table before.length c.tests atoms entries ∧
        tokens.filterMap ConditionToken.atom? = atoms.map (Condition.atomSql m.dialect) := by
  intro m group c spec
  have inner : group.Built := .addTest
    (.addTest .empty .or nofun (.single _ _ _ (by decide))) .or nofun (.list _ _ _ (by decide))
  have built : c.Built := .addGroup (.addGroup
    (.addTest .empty .and nofun (.single _ _ _ (by decide))) .or nofun .empty) .and nofun inner
  have level : IsLevel c.parts group.parts :=
    .group (List.mem_cons_of_mem _ (List.mem_singleton.mpr rfl)) (.self _)
  obtain ⟨levels, mapped⟩ := clause_of_map built
  exact ⟨_, built, rfl, rfl, level, levels _ level, mapped m spec _ rfl rfl⟩

end StatementMapper

end DataMapper
