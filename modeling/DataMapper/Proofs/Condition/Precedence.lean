import DataMapper.Proofs.Condition.Reading

/-!
# Criteria and the text they become

Criteria are read from left to right, and so are the trees they become.  The
text of such a tree is read by rank.  A chain like `a OR b AND c` stands for
`(a OR b) AND c`, is written without parentheses, and is read as
`a OR (b AND c)`.

`Criteria.andsFirst` says that, in each chain, the parts joined by AND come
before those joined by OR.  `StatementMapper.reads_of_lowerCriteria` says that
the text of built criteria has the value of the criteria, for all values of
their tests, exactly then.
-/

namespace DataMapper

/-! ## Where an AND comes after an OR -/

/-- Whether some part is joined by OR. -/
def joinsByOr (parts : List CriteriaPart) : Bool := parts.any fun part => part.join == .or

mutual

/-- Whether the ANDs of a group come before its ORs. -/
def CriteriaPart.andsFirst : CriteriaPart → Bool
  | .test _ _ => true
  | .group _ parts => chainAndsFirst false parts

/-- Whether the ANDs of a chain and of its groups come before the ORs, when it is
known if there was an OR before. -/
def chainAndsFirst (afterOr : Bool) : List CriteriaPart → Bool
  | [] => true
  | part :: rest =>
      (part.join == .or || !afterOr) && part.andsFirst &&
        chainAndsFirst (afterOr || part.join == .or) rest

end

/-- Whether the ANDs come before the ORs, in each chain of the criteria. -/
def Criteria.andsFirst (c : Criteria) : Bool := chainAndsFirst false c.parts

theorem joinsByOr_append (parts : List CriteriaPart) (last : CriteriaPart) :
    joinsByOr (parts ++ [last]) = (joinsByOr parts || last.join == .or) := by
  simp [joinsByOr]

theorem chainAndsFirst_append (afterOr : Bool) (parts : List CriteriaPart) (last : CriteriaPart) :
    chainAndsFirst afterOr (parts ++ [last])
      = ((last.join == .or || !(afterOr || joinsByOr parts)) &&
          chainAndsFirst afterOr parts && last.andsFirst) := by
  induction parts generalizing afterOr with
  | nil => simp [chainAndsFirst, joinsByOr]
  | cons part rest ih =>
      have later : (afterOr || joinsByOr (part :: rest))
          = ((afterOr || part.join == .or) || joinsByOr rest) := by
        rw [joinsByOr, List.any_cons, Bool.or_assoc]
        rfl
      rw [List.cons_append, chainAndsFirst, chainAndsFirst, ih, later]
      ac_rfl

/-! ## What the mapper makes of a chain -/

namespace StatementMapper

variable {m : StatementMapper} {table : Identifier} {position : Nat}

/-- A chain becomes a tree without an AND or OR on the right of another. -/
theorem isChain_of_lowers {d : Dialect} {parts : List CriteriaPart} {condition : Option Condition}
    {entries : Plan} (h : Lowers m table position parts condition entries) :
    ∀ tree ∈ condition, (tree.phrase d).IsChain := by
  have joined (before : Option Condition) (join : Join) {last : Condition}
      (past : ∀ tree ∈ before, (tree.phrase d).IsChain) (hlast : (last.phrase d).IsChain)
      (term : (last.phrase d).isTerm = true) :
      ∀ tree ∈ some (joinCondition before join last), (tree.phrase d).IsChain := by
    rintro _ ⟨⟩
    cases before with
    | none => exact hlast
    | some before =>
        have hbefore := past before rfl
        cases join with
        | initial => exact .and hbefore hlast term
        | and => exact .and hbefore hlast term
        | or => exact .or hbefore hlast term
  induction h with
  | nil => nofun
  | test join past htest ih =>
      have atom := Condition.phrase_of_isAtom (d := d) (isAtom_of_lowersTest htest)
      refine joined _ join ih ?_ ?_
      · rw [atom]
        exact .atom _
      · rw [atom]
        rfl
  | group join past hinner ih ihInner => exact joined _ join ih (.parens (ihInner _ rfl)) rfl
  | emptyGroup join past hinner ih ihInner => exact ih

/-- A part joined by OR adds an OR, unless it is the first. -/
theorem hasOr_joinCondition (d : Dialect) (before : Option Condition) (join : Join)
    {last : Condition} (term : (last.phrase d).isTerm = true) :
    ((joinCondition before join last).phrase d).hasOr
      = (before.any (fun tree => (tree.phrase d).hasOr) || (before.isSome && join == .or)) := by
  cases before with
  | none => cases last <;> first | rfl | cases term
  | some before => cases join <;> simp [joinCondition, Condition.phrase, Phrase.hasOr]

/-- A part joined by AND has to find no OR before it. -/
theorem keepsGroups_joinCondition (d : Dialect) (before : Option Condition) (join : Join)
    (last : Condition) :
    ((joinCondition before join last).phrase d).keepsGroups
      = ((join == .or || !before.any fun tree => (tree.phrase d).hasOr) &&
          (before.all fun tree => (tree.phrase d).keepsGroups) &&
          (last.phrase d).keepsGroups) := by
  cases before with
  | none => cases join <;> rfl
  | some before => cases join <;> rfl

/-- Whether a condition is what is expected of criteria: it is missing when they
are empty, and has an OR, or an AND after one, where they have it. -/
structure Mirrors (d : Dialect) (condition : Option Condition) (c : Criteria) : Prop where
  isSome : condition.isSome = !c.isEmpty
  hasOr : (condition.any fun tree => (tree.phrase d).hasOr) = joinsByOr c.parts
  keepsGroups : (condition.all fun tree => (tree.phrase d).keepsGroups) = c.andsFirst

/-- One more part keeps the mirror. -/
theorem Mirrors.join {d : Dialect} {before : Option Condition} {c : Criteria}
    (h : Mirrors d before c) (join : Join) (last : Condition) (part : CriteriaPart)
    (asked : part.join = c.joinAt join) (term : (last.phrase d).isTerm = true)
    (inside : (last.phrase d).keepsGroups = part.andsFirst) :
    Mirrors d (some (joinCondition before part.join last)) ⟨c.parts ++ [part]⟩ := by
  have first : c.isEmpty = true → (part.join == .or) = false := by
    intro none
    rw [asked, Criteria.joinAt, if_pos none]
    rfl
  constructor
  · simp [Criteria.isEmpty]
  · rw [Option.any_some, hasOr_joinCondition d before _ term, joinsByOr_append, h.hasOr, h.isSome]
    cases empty : c.isEmpty with
    | true => rw [first empty, Bool.and_false]
    | false => rw [Bool.not_false, Bool.true_and]
  · rw [Option.all_some, keepsGroups_joinCondition, h.keepsGroups, h.hasOr, inside,
      Criteria.andsFirst, Criteria.andsFirst, chainAndsFirst_append, Bool.false_or]

/-- Built criteria are mirrored by the tree they become. -/
theorem mirrors_of_lowers {d : Dialect} {c : Criteria} (built : c.Built)
    {condition : Option Condition} {entries : Plan}
    (h : Lowers m table position c.parts condition entries) : Mirrors d condition c := by
  induction built generalizing position condition entries with
  | empty =>
      rw [h.of_nil]
      exact ⟨rfl, rfl, rfl⟩
  | @addTest c past join hjoin criterion test ih =>
      obtain ⟨before, entries, more, tested, hpast, htest, rfl⟩ := h.of_test
      have atom := Condition.phrase_of_isAtom (d := d) (isAtom_of_lowersTest htest)
      refine (ih hpast).join join tested (.test (c.joinAt join) criterion) rfl ?_ ?_
      · rw [atom]
        rfl
      · rw [atom]
        rfl
  | @addGroup c group past join hjoin inner ih ihInner =>
      by_cases filled : group.isEmpty = true
      · rw [Criteria.addGroup, if_pos filled] at h ⊢
        exact ih h
      · rw [Criteria.addGroup, if_neg filled] at h ⊢
        obtain ⟨before, entries, more, nested, hpast, hinner, rfl⟩ := h.of_group
        have mirror := ihInner hinner
        have some := mirror.isSome
        rw [Bool.eq_false_iff.mpr filled, Bool.not_false, Option.isSome_iff_exists] at some
        obtain ⟨nested, rfl⟩ := some
        exact (ih hpast).join join (.nested nested) (.group (c.joinAt join) group.parts) rfl rfl
          mirror.keepsGroups

/-- Built criteria that become a tree have the value of that tree, whatever the
values of the tests.  The text of the tree is read in one way, and the phrase has
their value for all values of the tests exactly when, in each chain, the parts
joined by AND come before those joined by OR. -/
theorem reads_of_lowerCriteria {c : Criteria} (built : c.Built) {tree : Condition} {entries : Plan}
    (h : m.lowerCriteria table position c = .ok (some tree, entries)) :
    ∃ phrase, (∀ other, Phrase.Reads (tree.tokens m.dialect) other ↔ other = phrase) ∧
      (∀ value : Nat → Truth,
        c.truth (fun i _ => value i) = some (tree.truth (fun i _ => value i) 0)) ∧
      ((∀ value : Nat → Truth,
        some (phrase.truth value 0) = c.truth fun i _ => value i) ↔ c.andsFirst = true) := by
  have lowered := lowers_of_eq_ok h
  have described (value : Nat → Truth) :
      c.truth (fun i _ => value i) = some (tree.truth (fun i _ => value i) 0) := by
    symm
    refine truth_of_lowers ?_ lowered (List.Subset.refl entries) 0
    intros
    rfl
  have groups : (tree.phrase m.dialect).keepsGroups = c.andsFirst :=
    (mirrors_of_lowers built lowered).keepsGroups
  have chain : (tree.phrase m.dialect).IsChain := isChain_of_lowers lowered tree rfl
  refine ⟨(tree.phrase m.dialect).regroup, ?_, described, ?_⟩
  · rw [← Condition.tokens_phrase]
    exact chain.reads_iff
  · rw [← groups, ← Phrase.truth_regroup_iff]
    constructor
    · intro same value
      have values := same value
      rw [described, ← Condition.truth_phrase m.dialect] at values
      exact Option.some.inj values
    · intro same value
      rw [described, ← Condition.truth_phrase m.dialect, same]

/-- Criteria with a group that has an OR of its own. -/
theorem reads_of_lowerCriteria_group :
    let m := ofDialect .postgres
    let group := (Criteria.empty.addTest .and (.ofSingle (.ofText "c") .lt (.int 3))).addTest .or
      ⟨.ofText "d", .isIn, .list []⟩
    let c := ((Criteria.empty.addTest .and (.ofSingle (.ofText "a") .eq .null)).addGroup .and
      group).addTest .or ⟨.ofText "b", .between, .range (.int 1) (.int 2)⟩
    ∃ tree entries, c.Built ∧
      m.lowerCriteria (.unquoted "t") 0 c = .ok (some tree, entries) ∧
      (tree.sql m.dialect).text
        = "t.a IS NULL AND (t.c < $1 OR 1 = 0) OR t.b BETWEEN $2 AND $3" ∧
      c.andsFirst = true ∧
      ∃ phrase, (∀ other, Phrase.Reads (tree.tokens m.dialect) other ↔ other = phrase) ∧
        (∀ value : Nat → Truth,
          c.truth (fun i _ => value i) = some (tree.truth (fun i _ => value i) 0)) ∧
        ((∀ value : Nat → Truth,
          some (phrase.truth value 0) = c.truth fun i _ => value i) ↔ c.andsFirst = true) := by
  intro m group c
  have inner : group.Built := .addTest
    (.addTest .empty .and nofun (.single _ _ _ (by decide))) .or nofun (.list _ _ _ (by decide))
  have built : c.Built := .addTest
    (.addGroup (.addTest .empty .and nofun (.single _ _ _ (by decide))) .and nofun inner)
    .or nofun (.range _ _ _)
  refine ⟨_, _, built, rfl, ?_, rfl, reads_of_lowerCriteria built rfl⟩
  decide

/-- Criteria that let nothing through when the first test holds alone, with a text
that holds then. -/
theorem reads_of_lowerCriteria_or_and :
    let m := ofDialect .postgres
    let c := ((Criteria.empty.addTest .and (.ofSingle (.ofText "a") .eq (.int 1))).addTest .or
      (.ofSingle (.ofText "b") .eq (.int 2))).addTest .and (.ofSingle (.ofText "c") .eq (.int 3))
    ∃ tree entries phrase, c.Built ∧
      m.lowerCriteria (.unquoted "t") 0 c = .ok (some tree, entries) ∧
      (tree.sql m.dialect).text = "t.a = $1 OR t.b = $2 AND t.c = $3" ∧
      Phrase.Reads (tree.tokens m.dialect) phrase ∧
      ∃ value : Nat → Truth, c.truth (fun i _ => value i) = some .fails ∧
        tree.truth (fun i _ => value i) 0 = .fails ∧ phrase.truth value 0 = .holds := by
  intro m c
  have built : c.Built := .addTest (.addTest (.addTest .empty .and nofun
    (.single _ _ _ (by decide))) .or nofun (.single _ _ _ (by decide))) .and nofun
    (.single _ _ _ (by decide))
  refine ⟨_, _, .or (.atom _) (.and (.atom _) (.atom _)), built, rfl, ?_, ⟨?_, rfl⟩,
    fun i => if i = 0 then .holds else .fails, rfl, rfl, rfl⟩
  · decide
  · exact .or (.conjunction (.primary (.atom _))) (.and (.primary (.atom _)) (.atom _))

end StatementMapper

end DataMapper
