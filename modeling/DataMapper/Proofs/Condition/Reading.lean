import DataMapper.Proofs.Condition.Grammar

/-!
# Whether a written condition is read as the tree

The tree of a chain has the parts before a part on its left, and AND and OR are
written without parentheses.  So a part that is joined by AND goes, in the text,
with the last conjunction before it only.

* `Condition.phrase` is the tree as a phrase.  It has the tokens of the tree, but
  where an AND stands over an OR it has not the rank of a disjunction.
* `Phrase.regroup` is the phrase that these tokens are read as.  An AND takes
  hold of the last conjunction on its left (`Phrase.conjoin`).
* `Phrase.keepsGroups` holds when no AND has an OR on its left within the same
  parentheses.  Both phrases have one value for all values of the atomic
  conditions exactly then (`Phrase.truth_regroup_iff`).  If it holds they are the
  same, and otherwise some values let the text hold where the tree fails
  (`Phrase.exists_misread`).
-/

namespace DataMapper

namespace Phrase

/-! ## Values of phrases -/

/-- The value of a phrase comes from the values of its own atomic conditions. -/
theorem truth_congr {a b : Nat → Truth} {phrase : Phrase} {n : Nat}
    (h : ∀ i, n ≤ i → i < n + phrase.size → a i = b i) :
    phrase.truth a n = phrase.truth b n := by
  induction phrase generalizing n with
  | atom sql => exact h n (Nat.le_refl n) (Nat.lt_succ_self n)
  | parens inner ih => exact ih h
  | and left right ihLeft ihRight | or left right ihLeft ihRight =>
      rw [size] at h
      rw [truth, truth, ihLeft fun i hl hr => h i hl (by omega),
        ihRight fun i hl hr => h i (by omega) (by omega)]

/-- Values that are all the same are the value of every phrase. -/
theorem truth_const {t : Truth} (phrase : Phrase) (n : Nat) :
    phrase.truth (fun _ => t) n = t := by
  induction phrase generalizing n with
  | atom sql => rfl
  | parens inner ih => exact ih n
  | and left right ihLeft ihRight =>
      rw [truth, ihLeft, ihRight]
      cases t <;> rfl
  | or left right ihLeft ihRight =>
      rw [truth, ihLeft, ihRight]
      cases t <;> rfl

/-- Some values up to a number, and others from there on. -/
def splice (n : Nat) (before after : Nat → Truth) : Nat → Truth :=
  fun i => if i < n then before i else after i

variable {before after : Nat → Truth} {n place : Nat}

/-- A phrase on the left of the place has the first values. -/
theorem truth_splice_left {phrase : Phrase} (h : n + phrase.size ≤ place) :
    phrase.truth (splice place before after) n = phrase.truth before n :=
  truth_congr fun _ _ less => if_pos (Nat.lt_of_lt_of_le less h)

/-- A phrase on its right has the second. -/
theorem truth_splice_right (phrase : Phrase) :
    phrase.truth (splice place before after) place = phrase.truth after place :=
  truth_congr fun _ le _ => if_neg (Nat.not_lt.mpr le)

/-! ## Joining to the last conjunction -/

/-- A phrase with one more primary in its last conjunction. -/
def conjoin : Phrase → Phrase → Phrase
  | or left right, factor => or left (and right factor)
  | phrase, factor => and phrase factor

theorem tokens_conjoin (phrase factor : Phrase) :
    (phrase.conjoin factor).tokens = phrase.tokens ++ .and :: factor.tokens := by
  cases phrase with
  | or left right => simp [conjoin, tokens]
  | _ => rfl

theorem size_conjoin (phrase factor : Phrase) :
    (phrase.conjoin factor).size = phrase.size + factor.size := by
  cases phrase with
  | or left right => exact (Nat.add_assoc _ _ _).symm
  | _ => rfl

/-- One more primary leaves a disjunction a disjunction. -/
theorem binds_conjoin {phrase factor : Phrase} (h : Binds .disjunction phrase)
    (hfactor : Binds .primary factor) : Binds .disjunction (phrase.conjoin factor) := by
  cases h with
  | or hleft hright => exact .or hleft (.and hright hfactor)
  | conjunction hconjunction =>
      have joined : Binds .disjunction (and phrase factor) :=
        .conjunction (.and hconjunction hfactor)
      cases hconjunction with
      | and _ _ => exact joined
      | primary hprimary => cases hprimary <;> exact joined

/-- A primary that holds changes nothing. -/
theorem truth_conjoin {value : Nat → Truth} {phrase factor : Phrase}
    (h : factor.truth value (n + phrase.size) = .holds) :
    (phrase.conjoin factor).truth value n = phrase.truth value n := by
  have joined : (and phrase factor).truth value n = phrase.truth value n := by
    rw [truth, h, Truth.and_holds]
  cases phrase with
  | or left right =>
      rw [size, ← Nat.add_assoc] at h
      rw [conjoin, truth, truth, h, Truth.and_holds, truth]
  | _ => exact joined

/-! ## Reading the tokens of a tree -/

/-- What the tokens of a tree are read as. -/
def regroup : Phrase → Phrase
  | atom sql => atom sql
  | parens inner => parens inner.regroup
  | and left right => left.regroup.conjoin right.regroup
  | or left right => or left.regroup right.regroup

/-- Whether a phrase has neither AND nor OR outside of parentheses. -/
def isTerm : Phrase → Bool
  | and _ _ | or _ _ => false
  | _ => true

/-- Whether AND and OR have no other AND or OR on their right. -/
inductive IsChain : Phrase → Prop where
  | atom (sql : Sql) : IsChain (.atom sql)
  | parens {inner : Phrase} (h : IsChain inner) : IsChain (.parens inner)
  | and {left right : Phrase} (hleft : IsChain left) (hright : IsChain right)
      (term : right.isTerm = true) : IsChain (.and left right)
  | or {left right : Phrase} (hleft : IsChain left) (hright : IsChain right)
      (term : right.isTerm = true) : IsChain (.or left right)

theorem tokens_regroup (phrase : Phrase) : phrase.regroup.tokens = phrase.tokens := by
  induction phrase with
  | atom sql => rfl
  | parens inner ih => rw [regroup, tokens, ih, tokens]
  | and left right ihLeft ihRight => rw [regroup, tokens_conjoin, ihLeft, ihRight, tokens]
  | or left right ihLeft ihRight => rw [regroup, tokens, ihLeft, ihRight, tokens]

theorem size_regroup (phrase : Phrase) : phrase.regroup.size = phrase.size := by
  induction phrase with
  | atom sql => rfl
  | parens inner ih => exact ih
  | and left right ihLeft ihRight => rw [regroup, size_conjoin, ihLeft, ihRight, size]
  | or left right ihLeft ihRight => rw [regroup, size, ihLeft, ihRight, size]

/-- What a chain is read as follows the ranks, and a term is read as a primary. -/
theorem IsChain.binds_regroup {phrase : Phrase} (h : phrase.IsChain) :
    phrase.regroup.Binds .disjunction ∧
      (phrase.isTerm = true → phrase.regroup.Binds .primary) := by
  induction h with
  | atom sql => exact ⟨.conjunction (.primary (.atom sql)), fun _ => .atom sql⟩
  | parens hinner ih =>
      have primary := Binds.parens ih.1
      exact ⟨.conjunction (.primary primary), fun _ => primary⟩
  | and hleft hright term ihLeft ihRight =>
      exact ⟨binds_conjoin ihLeft.1 (ihRight.2 term), nofun⟩
  | or hleft hright term ihLeft ihRight =>
      exact ⟨.or ihLeft.1 (.primary (ihRight.2 term)), nofun⟩

/-- The tokens of a chain are read in one way. -/
theorem IsChain.reads_iff {phrase : Phrase} (h : phrase.IsChain) (other : Phrase) :
    Reads phrase.tokens other ↔ other = phrase.regroup := by
  have reads : Reads phrase.tokens phrase.regroup := ⟨h.binds_regroup.1, tokens_regroup phrase⟩
  constructor
  · intro hother
    exact hother.unique reads
  · rintro rfl
    exact reads

/-! ## Where the reading and the tree agree -/

/-- Whether an OR stands outside of parentheses in what was joined from the left. -/
def hasOr : Phrase → Bool
  | or _ _ => true
  | and left _ => left.hasOr
  | _ => false

/-- Whether no AND has an OR on its left within the same parentheses. -/
def keepsGroups : Phrase → Bool
  | atom _ => true
  | parens inner => inner.keepsGroups
  | and left right => !left.hasOr && left.keepsGroups && right.keepsGroups
  | or left right => left.keepsGroups && right.keepsGroups

/-- Where there is no OR, one more primary is joined to all that was read. -/
theorem conjoin_regroup {phrase : Phrase} (h : phrase.hasOr = false) (factor : Phrase) :
    phrase.regroup.conjoin factor = .and phrase.regroup factor := by
  induction phrase generalizing factor with
  | atom sql => rfl
  | parens inner ih => rfl
  | and left right ih _ =>
      rw [regroup, ih h]
      rfl
  | or left right => cases h

/-- Where there is an OR, it is the last thing that is done. -/
theorem regroup_of_hasOr {phrase : Phrase} (h : phrase.hasOr = true) :
    ∃ left right, phrase.regroup = .or left right := by
  induction phrase with
  | atom sql => cases h
  | parens inner ih => cases h
  | and left right ih _ =>
      obtain ⟨first, last, hregroup⟩ := ih h
      refine ⟨first, .and last right.regroup, ?_⟩
      rw [regroup, hregroup]
      rfl
  | or left right => exact ⟨_, _, rfl⟩

/-- A tree that keeps its groups is read as it is. -/
theorem regroup_eq {phrase : Phrase} (h : phrase.keepsGroups = true) : phrase.regroup = phrase := by
  induction phrase with
  | atom sql => rfl
  | parens inner ih => rw [regroup, ih h]
  | and left right ihLeft ihRight =>
      simp only [keepsGroups, Bool.and_eq_true, Bool.not_eq_true'] at h
      obtain ⟨⟨alone, hleft⟩, hright⟩ := h
      rw [regroup, conjoin_regroup alone, ihLeft hleft, ihRight hright]
  | or left right ihLeft ihRight =>
      rw [keepsGroups, Bool.and_eq_true] at h
      rw [regroup, ihLeft h.1, ihRight h.2]

/-! ## Where they differ -/

/-- A tree that does not keep its groups fails for some values for which what is
read holds. -/
theorem exists_misread {phrase : Phrase} (h : phrase.keepsGroups = false) (n : Nat) :
    ∃ value : Nat → Truth, phrase.truth value n = .fails ∧
      phrase.regroup.truth value n = .holds := by
  induction phrase generalizing n with
  | atom sql => cases h
  | parens inner ih => exact ih h n
  | and left right ihLeft ihRight =>
      have own : n + left.regroup.size ≤ n + left.size := Nat.le_of_eq (by rw [size_regroup])
      rw [keepsGroups, Bool.and_eq_false_iff, Bool.and_eq_false_iff, Bool.not_eq_false'] at h
      rcases h with (overOr | hleft) | hright
      · -- The OR on the left holds by its first part, which the AND does not reach.
        obtain ⟨first, last, hregroup⟩ := regroup_of_hasOr overOr
        refine ⟨splice (n + left.size) (fun _ => .holds) fun _ => .fails, ?_, ?_⟩
        · rw [truth, truth_splice_right, truth_const, Truth.and_fails]
        · have inside : n + first.size ≤ n + left.size := by
            rw [hregroup, size] at own
            omega
          rw [regroup, hregroup, conjoin, truth, truth_splice_left inside, truth_const,
            Truth.holds_or]
      · obtain ⟨value, hfails, hholds⟩ := ihLeft hleft n
        refine ⟨splice (n + left.size) value fun _ => .holds, ?_, ?_⟩
        · rw [truth, truth_splice_left (Nat.le_refl _), hfails, Truth.fails_and]
        · rw [regroup, truth_conjoin, truth_splice_left own, hholds]
          rw [size_regroup, truth_splice_right, truth_const]
      · obtain ⟨value, hfails, hholds⟩ := ihRight hright (n + left.size)
        refine ⟨splice (n + left.size) (fun _ => .holds) value, ?_, ?_⟩
        · rw [truth, truth_splice_right, hfails, Truth.and_fails]
        · rw [regroup, truth_conjoin, truth_splice_left own, truth_const]
          rw [size_regroup, truth_splice_right, hholds]
  | or left right ihLeft ihRight =>
      have own : n + left.regroup.size ≤ n + left.size := Nat.le_of_eq (by rw [size_regroup])
      rw [keepsGroups, Bool.and_eq_false_iff] at h
      rcases h with hleft | hright
      · obtain ⟨value, hfails, hholds⟩ := ihLeft hleft n
        refine ⟨splice (n + left.size) value fun _ => .fails, ?_, ?_⟩
        · rw [truth, truth_splice_left (Nat.le_refl _), truth_splice_right, hfails, truth_const,
            Truth.or_fails]
        · rw [regroup, truth, truth_splice_left own, hholds, Truth.holds_or]
      · obtain ⟨value, hfails, hholds⟩ := ihRight hright (n + left.size)
        refine ⟨splice (n + left.size) (fun _ => .fails) value, ?_, ?_⟩
        · rw [truth, truth_splice_left (Nat.le_refl _), truth_splice_right, hfails, truth_const,
            Truth.or_fails]
        · rw [regroup, truth, size_regroup, truth_splice_right, hholds, Truth.or_holds]

/-- A tree has the value of what is read, for all values, exactly when it keeps its
groups. -/
theorem truth_regroup_iff (phrase : Phrase) :
    (∀ value : Nat → Truth, phrase.regroup.truth value 0 = phrase.truth value 0) ↔
      phrase.keepsGroups = true := by
  constructor
  · intro agree
    cases groups : phrase.keepsGroups with
    | true => rfl
    | false =>
        obtain ⟨value, hfails, hholds⟩ := exists_misread groups 0
        have same := agree value
        rw [hfails, hholds] at same
        cases same
  · intro groups value
    rw [regroup_eq groups]

end Phrase

/-! ## Trees as phrases -/

namespace Condition

/-- A tree as a phrase. -/
def phrase (d : Dialect) : Condition → Phrase
  | nested inner => .parens (inner.phrase d)
  | and left right => .and (left.phrase d) (right.phrase d)
  | or left right => .or (left.phrase d) (right.phrase d)
  | condition => .atom (condition.atomSql d)

variable {d : Dialect}

theorem phrase_of_isAtom {c : Condition} (h : c.isAtom = true) :
    c.phrase d = .atom (c.atomSql d) := by
  cases c <;> first | rfl | cases h

theorem tokens_phrase (d : Dialect) (c : Condition) : (c.phrase d).tokens = c.tokens d := by
  induction c with
  | nested inner ih => rw [phrase, Phrase.tokens, ih, tokens]
  | and left right ihLeft ihRight => rw [phrase, Phrase.tokens, ihLeft, ihRight, tokens]
  | or left right ihLeft ihRight => rw [phrase, Phrase.tokens, ihLeft, ihRight, tokens]
  | _ => rfl

theorem size_phrase (d : Dialect) (c : Condition) : (c.phrase d).size = c.size := by
  induction c with
  | nested inner ih => exact ih
  | and left right ihLeft ihRight => rw [phrase, Phrase.size, ihLeft, ihRight, size]
  | or left right ihLeft ihRight => rw [phrase, Phrase.size, ihLeft, ihRight, size]
  | _ => rfl

/-- A tree and its phrase have one value. -/
theorem truth_phrase (d : Dialect) (c : Condition) (value : Nat → Truth) (n : Nat) :
    (c.phrase d).truth value n = c.truth (fun i _ => value i) n := by
  induction c generalizing n with
  | nested inner ih => exact ih n
  | and left right ihLeft ihRight =>
      rw [phrase, Phrase.truth, ihLeft, size_phrase, ihRight, truth]
  | or left right ihLeft ihRight =>
      rw [phrase, Phrase.truth, ihLeft, size_phrase, ihRight, truth]
  | _ => rfl

end Condition

end DataMapper
