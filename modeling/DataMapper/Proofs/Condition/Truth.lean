import DataMapper.Proofs.Lowering

/-!
# The truth of conditions and of criteria

A comparison with a NULL is neither true nor false, so there are three values of
truth.  `Condition.truth` is the value of a tree and `Criteria.truth` that of
criteria, both from the values of what they are made of.  The atomic conditions
and the tests are numbered from left to right, so that two of them may differ in
value even when they are written alike.

Criteria are read from left to right: each part is joined to the value of all
parts before it, and a group has the value of its own chain.  Criteria without
a test have no value, for they restrict nothing.

`StatementMapper.truth_of_lowers` carries a value from criteria to the tree they
become, for any values of the tests that their conditions share.
-/

namespace DataMapper

/-! ## Values of truth -/

/-- A value of truth. -/
inductive Truth where
  | holds
  | fails
  /-- It cannot be said. -/
  | unknown
  deriving DecidableEq, Repr

namespace Truth

/-- Both: it fails when one does, and holds when both do. -/
def and : Truth → Truth → Truth
  | fails, _ => fails
  | _, fails => fails
  | holds, holds => holds
  | _, _ => unknown

/-- One of two: it holds when one does, and fails when both do. -/
def or : Truth → Truth → Truth
  | holds, _ => holds
  | _, holds => holds
  | fails, fails => fails
  | _, _ => unknown

@[simp] theorem and_holds (t : Truth) : t.and holds = t := by cases t <;> rfl

@[simp] theorem and_fails (t : Truth) : t.and fails = fails := by cases t <;> rfl

@[simp] theorem fails_and (t : Truth) : fails.and t = fails := rfl

@[simp] theorem or_holds (t : Truth) : t.or holds = holds := by cases t <;> rfl

@[simp] theorem holds_or (t : Truth) : holds.or t = holds := rfl

@[simp] theorem or_fails (t : Truth) : t.or fails = t := by cases t <;> rfl

end Truth

/-! ## Trees -/

namespace Condition

/-- The number of atomic conditions. -/
def size : Condition → Nat
  | nested inner => inner.size
  | and left right | or left right => left.size + right.size
  | _ => 1

/-- The value of a condition, from the values of its atomic conditions, which
are numbered from left to right beginning with a given number. -/
def truth (atom : Nat → Condition → Truth) : Nat → Condition → Truth
  | n, nested inner => inner.truth atom n
  | n, and left right => (left.truth atom n).and (right.truth atom (n + left.size))
  | n, or left right => (left.truth atom n).or (right.truth atom (n + left.size))
  | n, condition => atom n condition

/-- Whether a condition has neither AND nor OR nor parentheses. -/
def isAtom : Condition → Bool
  | nested _ | and _ _ | or _ _ => false
  | _ => true

theorem size_of_isAtom {c : Condition} (h : c.isAtom = true) : c.size = 1 := by
  cases c <;> first | rfl | cases h

theorem truth_of_isAtom {c : Condition} (h : c.isAtom = true) (atom : Nat → Condition → Truth)
    (n : Nat) : c.truth atom n = atom n c := by
  cases c <;> first | rfl | cases h

end Condition

/-- The number of atomic conditions, none when there is no condition. -/
def clauseSize : Option Condition → Nat
  | some condition => condition.size
  | none => 0

/-! ## Criteria -/

/-- What parts so far come to when one more is joined to them.  A part without a
value changes nothing, and the first value has nothing to join. -/
def Join.truth (join : Join) : Option Truth → Option Truth → Option Truth
  | before, none => before
  | none, some t => some t
  | some before, some t => some (if join = .or then before.or t else before.and t)

mutual

/-- The number of tests in a part. -/
def CriteriaPart.size : CriteriaPart → Nat
  | .test _ _ => 1
  | .group _ parts => chainSize parts

/-- The number of tests in a chain. -/
def chainSize : List CriteriaPart → Nat
  | [] => 0
  | part :: rest => part.size + chainSize rest

end

mutual

/-- The value of a part, from the values of its tests. -/
def CriteriaPart.truth (test : Nat → Criterion → Truth) : Nat → CriteriaPart → Option Truth
  | n, .test _ criterion => some (test n criterion)
  | n, .group _ parts => chainTruth test n none parts

/-- The value of a chain whose parts are joined to what was before them. -/
def chainTruth (test : Nat → Criterion → Truth) :
    Nat → Option Truth → List CriteriaPart → Option Truth
  | _, before, [] => before
  | n, before, part :: rest =>
      chainTruth test (n + part.size) (part.join.truth before (part.truth test n)) rest

end

/-- The value of criteria, from the values of their tests, which are numbered
from left to right. -/
def Criteria.truth (test : Nat → Criterion → Truth) (c : Criteria) : Option Truth :=
  chainTruth test 0 none c.parts

/-- The tests of two chains, one after the other. -/
theorem chainSize_append (a b : List CriteriaPart) :
    chainSize (a ++ b) = chainSize a + chainSize b := by
  induction a with
  | nil => rw [List.nil_append, chainSize, Nat.zero_add]
  | cons part rest ih => rw [List.cons_append, chainSize, chainSize, ih, Nat.add_assoc]

/-- The last part of a chain is joined to the value of all parts before it. -/
theorem chainTruth_append (test : Nat → Criterion → Truth) (n : Nat) (before : Option Truth)
    (parts : List CriteriaPart) (last : CriteriaPart) :
    chainTruth test n before (parts ++ [last])
      = last.join.truth (chainTruth test n before parts)
          (last.truth test (n + chainSize parts)) := by
  induction parts generalizing n before with
  | nil => rw [List.nil_append, chainTruth, chainTruth, chainTruth, chainSize, Nat.add_zero]
  | cons part rest ih =>
      rw [List.cons_append, chainTruth, chainTruth, ih, chainSize, Nat.add_assoc]

/-! ## From criteria to trees -/

namespace StatementMapper

variable {m : StatementMapper} {table : Identifier}

/-- A test becomes an atomic condition. -/
theorem isAtom_of_lowersTest {position : Nat} {c : Criterion} {condition : Condition}
    {entries : Plan} (h : LowersTest m table position c condition entries) :
    condition.isAtom = true := by
  cases h <;> rfl

/-- Joining adds the atomic conditions of the new condition. -/
theorem size_joinCondition (before : Option Condition) (join : Join) (condition : Condition) :
    (joinCondition before join condition).size = clauseSize before + condition.size := by
  cases before with
  | none => exact (Nat.zero_add _).symm
  | some before => cases join <;> rfl

/-- A chain becomes a tree with an atomic condition for each of its tests. -/
theorem size_of_lowers {position : Nat} {parts : List CriteriaPart}
    {condition : Option Condition} {entries : Plan}
    (h : Lowers m table position parts condition entries) :
    clauseSize condition = chainSize parts := by
  induction h with
  | nil => rfl
  | test join past htest ih =>
      rw [clauseSize, size_joinCondition, ih, chainSize_append,
        Condition.size_of_isAtom (isAtom_of_lowersTest htest)]
      rfl
  | group join past hinner ih ihInner =>
      rw [clauseSize, size_joinCondition, ih, chainSize_append]
      exact congrArg _ ihInner
  | emptyGroup join past hinner ih ihInner =>
      rw [ih, chainSize_append]
      simp only [chainSize, CriteriaPart.size, ← ihInner, clauseSize, Nat.add_zero]

/-- Joining conditions joins their values. -/
theorem truth_joinCondition (atom : Nat → Condition → Truth) (n : Nat) (before : Option Condition)
    (join : Join) (condition : Condition) :
    some ((joinCondition before join condition).truth atom n)
      = join.truth (before.map (·.truth atom n))
          (some (condition.truth atom (n + clauseSize before))) := by
  cases before with
  | none => rfl
  | some before => cases join <;> rfl

/-- A chain and the tree it becomes have one value, when each test has the value
of its condition.  The entries of the tests are in a plan that may hold more. -/
theorem truth_of_lowers {test : Nat → Criterion → Truth} {atom : Nat → Condition → Truth}
    {plan : Plan}
    (agree : ∀ {n position : Nat} {c : Criterion} {condition : Condition} {entries : Plan},
      LowersTest m table position c condition entries → entries ⊆ plan →
        atom n condition = test n c)
    {position : Nat} {parts : List CriteriaPart} {condition : Option Condition} {entries : Plan}
    (h : Lowers m table position parts condition entries) (inside : entries ⊆ plan) (n : Nat) :
    condition.map (·.truth atom n) = chainTruth test n none parts := by
  induction h generalizing n with
  | nil => rfl
  | @test position parts before entries more criterion condition join past htest ih =>
      have first : entries ⊆ plan := List.Subset.trans (List.subset_append_left _ _) inside
      have last : more ⊆ plan := List.Subset.trans (List.subset_append_right _ _) inside
      rw [Option.map_some, truth_joinCondition, ih first, size_of_lowers past, chainTruth_append,
        Condition.truth_of_isAtom (isAtom_of_lowersTest htest), agree htest last]
      rfl
  | @group position parts inner before entries more condition join past hinner ih ihInner =>
      have first : entries ⊆ plan := List.Subset.trans (List.subset_append_left _ _) inside
      have last : more ⊆ plan := List.Subset.trans (List.subset_append_right _ _) inside
      rw [Option.map_some, truth_joinCondition, ih first, size_of_lowers past, chainTruth_append,
        CriteriaPart.truth, ← ihInner last]
      rfl
  | @emptyGroup position parts inner before entries more join past hinner ih ihInner =>
      have first : entries ⊆ plan := List.Subset.trans (List.subset_append_left _ _) inside
      have last : more ⊆ plan := List.Subset.trans (List.subset_append_right _ _) inside
      rw [ih first, chainTruth_append, CriteriaPart.truth, ← ihInner last]
      rfl

end StatementMapper

end DataMapper
