import DataMapper.Proofs.Condition.Truth

/-!
# How a written condition is read

SQL reads the tokens of a condition by three ranks.  A primary is an atomic
condition or a disjunction in parentheses, a conjunction is a row of primaries
with AND between them, and a disjunction is a row of conjunctions with OR
between them.  So AND binds tighter than OR, whatever the writer of the tokens
had in mind.

A `Phrase` is what is read, `Phrase.Binds` says which phrases have a rank, and
`Phrase.Reads` relates the tokens to the phrase.  Rows are taken together from
the left.

No text can be read in two ways (`Phrase.Reads.unique`).  For the proof there is a
reader in one pass.  It keeps an `Open` for each parenthesis that is not yet
closed, and gives every phrase back from its tokens.
-/

namespace DataMapper

/-! ## Phrases -/

/-- A condition as it is read. -/
inductive Phrase where
  | atom (sql : Sql)
  | parens (inner : Phrase)
  | and (left right : Phrase)
  | or (left right : Phrase)
  deriving DecidableEq, Repr

/-- The ranks, from the one that binds tightest. -/
inductive Rank where
  /-- An atomic condition or a phrase in parentheses. -/
  | primary
  /-- Primaries with AND between them. -/
  | conjunction
  /-- Conjunctions with OR between them. -/
  | disjunction
  deriving DecidableEq, Repr

namespace Phrase

/-- The tokens that are read. -/
def tokens : Phrase → List ConditionToken
  | atom sql => [.atom sql]
  | parens inner => .opening :: inner.tokens ++ [.closing]
  | and left right => left.tokens ++ .and :: right.tokens
  | or left right => left.tokens ++ .or :: right.tokens

/-- The number of atomic conditions. -/
def size : Phrase → Nat
  | atom _ => 1
  | parens inner => inner.size
  | and left right | or left right => left.size + right.size

/-- The value of a phrase, from the values of its atomic conditions, which are
numbered from left to right beginning with a given number. -/
def truth (value : Nat → Truth) : Nat → Phrase → Truth
  | n, atom _ => value n
  | n, parens inner => inner.truth value n
  | n, and left right => (left.truth value n).and (right.truth value (n + left.size))
  | n, or left right => (left.truth value n).or (right.truth value (n + left.size))

/-- Whether a phrase has a rank. -/
inductive Binds : Rank → Phrase → Prop where
  /-- An atomic condition is a primary. -/
  | atom (sql : Sql) : Binds .primary (.atom sql)
  /-- A disjunction in parentheses is a primary. -/
  | parens {inner : Phrase} (h : Binds .disjunction inner) : Binds .primary (.parens inner)
  /-- A primary is a conjunction of one. -/
  | primary {phrase : Phrase} (h : Binds .primary phrase) : Binds .conjunction phrase
  /-- A primary goes on a conjunction. -/
  | and {left right : Phrase} (hleft : Binds .conjunction left) (hright : Binds .primary right) :
      Binds .conjunction (.and left right)
  /-- A conjunction is a disjunction of one. -/
  | conjunction {phrase : Phrase} (h : Binds .conjunction phrase) : Binds .disjunction phrase
  /-- A conjunction goes on a disjunction. -/
  | or {left right : Phrase} (hleft : Binds .disjunction left)
      (hright : Binds .conjunction right) : Binds .disjunction (.or left right)

/-- Whether tokens are read as a phrase. -/
def Reads (tokens : List ConditionToken) (phrase : Phrase) : Prop :=
  Binds .disjunction phrase ∧ phrase.tokens = tokens

/-! ## A reader -/

/-- What was read since a parenthesis was opened: the conjunctions up to the last
OR, and the primaries since then. -/
structure Open where
  /-- The conjunctions up to the last OR. -/
  disjuncts : Option Phrase
  /-- The primaries after it. -/
  factors : Option Phrase

namespace Open

/-- Nothing was read. -/
def start : Open := ⟨none, none⟩

/-- One more primary was read. -/
def add (o : Open) (phrase : Phrase) : Open :=
  ⟨o.disjuncts, some (match o.factors with
    | none => phrase
    | some factors => .and factors phrase)⟩

/-- All that was read, as one phrase. -/
def close (o : Open) : Option Phrase :=
  match o.disjuncts, o.factors with
  | some disjuncts, some factors => some (.or disjuncts factors)
  | none, factors => factors
  | some _, none => none

end Open

/-- Reads tokens within what is open, the innermost apart from those around it.
It is asked for the tokens of phrases only, and does not look for a missing AND. -/
def readFrom (o : Open) : List Open → List ConditionToken → Option Phrase
  | [], [] => o.close
  | _ :: _, [] => none
  | around, .atom sql :: rest => readFrom (o.add (.atom sql)) around rest
  | around, .and :: rest => readFrom o around rest
  | around, .or :: rest => readFrom ⟨o.close, none⟩ around rest
  | around, .opening :: rest => readFrom .start (o :: around) rest
  | outer :: around, .closing :: rest =>
      match o.close with
      | some phrase => readFrom (outer.add (.parens phrase)) around rest
      | none => none
  | [], .closing :: _ => none

/-- What the reader does with the tokens of a phrase of a rank. -/
def Consumed (phrase : Phrase) : Rank → Prop
  | .primary => ∀ o around rest,
      readFrom o around (phrase.tokens ++ rest) = readFrom (o.add phrase) around rest
  | .conjunction => ∀ disjuncts around rest,
      readFrom ⟨disjuncts, none⟩ around (phrase.tokens ++ rest)
        = readFrom ⟨disjuncts, some phrase⟩ around rest
  | .disjunction => ∃ o : Open, o.close = some phrase ∧
      ∀ around rest, readFrom .start around (phrase.tokens ++ rest) = readFrom o around rest

/-- The reader takes a phrase from its tokens. -/
theorem Binds.consumed {rank : Rank} {phrase : Phrase} (h : Binds rank phrase) :
    Consumed phrase rank := by
  induction h with
  | atom sql =>
      intro o around rest
      cases around <;> rfl
  | @parens inner hinner ih =>
      obtain ⟨last, hlast, hread⟩ := ih
      intro o around rest
      have opened : readFrom o around ((Phrase.parens inner).tokens ++ rest)
          = readFrom .start (o :: around) (inner.tokens ++ .closing :: rest) := by
        rw [tokens, List.append_assoc, List.cons_append]
        cases around <;> rfl
      rw [opened, hread, readFrom, hlast]
  | primary hprimary ih =>
      intro disjuncts around rest
      exact ih ⟨disjuncts, none⟩ around rest
  | @and left right hleft hright ihLeft ihRight =>
      intro disjuncts around rest
      have word (o : Open) (more : List ConditionToken) :
          readFrom o around (.and :: more) = readFrom o around more := by
        cases around <;> rfl
      rw [tokens, List.append_assoc, List.cons_append, ihLeft, word, ihRight]
      rfl
  | conjunction hconjunction ih =>
      exact ⟨⟨none, some _⟩, rfl, ih none⟩
  | @or left right hleft hright ihLeft ihRight =>
      obtain ⟨last, hlast, hread⟩ := ihLeft
      refine ⟨⟨some left, some right⟩, rfl, fun around rest => ?_⟩
      have word (more : List ConditionToken) :
          readFrom last around (.or :: more) = readFrom ⟨last.close, none⟩ around more := by
        cases around <;> rfl
      rw [tokens, List.append_assoc, List.cons_append, hread, word, hlast, ihRight]

/-- The reader gives a phrase back from its tokens. -/
theorem Reads.readFrom_eq {tokens : List ConditionToken} {phrase : Phrase}
    (h : Reads tokens phrase) : readFrom .start [] tokens = some phrase := by
  obtain ⟨binds, rfl⟩ := h
  obtain ⟨last, hlast, hread⟩ := binds.consumed
  rw [← List.append_nil phrase.tokens, hread]
  exact hlast

/-- Tokens are read in one way. -/
theorem Reads.unique {tokens : List ConditionToken} {p q : Phrase} (hp : Reads tokens p)
    (hq : Reads tokens q) : p = q := by
  have same : some p = some q := hp.readFrom_eq.symm.trans hq.readFrom_eq
  exact Option.some.inj same

end Phrase

end DataMapper
