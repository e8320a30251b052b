import DataMapper.Proofs.Expression.Pieces

/-!
# Queries split at their expressions

A `QuerySplit` is the text before the first expression of a query and then each expression
with the text behind it.  It is the split of a query (`QuerySplit.IsSplitOf`) when its text
is the query, no body of an expression holds a closing brace, and no expression begins at a
character outside the expressions, so that expressions are taken from left to right.

Every query has exactly one split, and the pieces of the query are those of the split
(`QuerySplit.isSplitOf_iff`).  Replacing the expressions makes no new ones: what begins
like an expression in the new text did so in the query and was closed by nothing behind it
(`queryPieces_replacePieces`).  `ExpressionQuery.create_split` puts this together.
-/

namespace DataMapper

/-! ## Where an expression begins -/

/-- Whether a text begins with an expression, whose body holds no closing brace. -/
def BeginsExpression (cs : List Char) : Prop :=
  ∃ kind body rest, '\x7d' ∉ body ∧ cs = (QueryPiece.expression kind body).chars ++ rest

theorem QueryPiece.chars_expression_append (kind : ExpressionKind) (body rest : List Char) :
    (expression kind body).chars ++ rest
      = kind.sigil :: '#' :: '\x7b' :: (body ++ '\x7d' :: rest) := by
  simp [chars]

theorem ExpressionKind.ofChar?_sigil (kind : ExpressionKind) : ofChar? kind.sigil = some kind := by
  cases kind <;> rfl

theorem bracedBody?_append {body : List Char} (h : '\x7d' ∉ body) (rest : List Char) :
    bracedBody? ('#' :: '\x7b' :: (body ++ '\x7d' :: rest)) = some body := by
  have closed : (body ++ '\x7d' :: rest).contains '\x7d' = true := by simp
  rw [bracedBody?, if_pos closed, takeWhile_ne_append_cons h]

/-- The expression at a character is found when it is there. -/
theorem expressionAt?_sigil (kind : ExpressionKind) {body : List Char} (h : '\x7d' ∉ body)
    (rest : List Char) :
    expressionAt? kind.sigil ('#' :: '\x7b' :: (body ++ '\x7d' :: rest)) = some (kind, body) := by
  rw [expressionAt?, kind.ofChar?_sigil, bracedBody?_append h]

/-- What is found at a character is an expression. -/
theorem beginsExpression_of_expressionAt? {c : Char} {cs body : List Char} {kind : ExpressionKind}
    (h : expressionAt? c cs = some (kind, body)) :
    '\x7d' ∉ body ∧ BeginsExpression (c :: cs) := by
  obtain ⟨rfl, closed, rest, rfl⟩ := append_of_expressionAt h
  exact ⟨closed, kind, body, rest, closed, by simp [QueryPiece.chars_expression_append]⟩

theorem expressionAt?_eq_none_iff {c : Char} {cs : List Char} :
    expressionAt? c cs = none ↔ ¬ BeginsExpression (c :: cs) := by
  constructor
  · rintro none ⟨kind, body, rest, closed, same⟩
    rw [QueryPiece.chars_expression_append] at same
    cases same
    rw [expressionAt?_sigil kind closed] at none
    cases none
  · intro h
    cases found : expressionAt? c cs with
    | none => rfl
    | some expression => exact absurd (beginsExpression_of_expressionAt? found).2 h

/-! ## Leftmost expressions -/

/-- Whether pieces are the leftmost expressions of their text and the characters outside
them: no body holds a closing brace, and no expression begins at one of the characters. -/
structure IsLeftmost (pieces : List QueryPiece) : Prop where
  closed : ∀ kind body, QueryPiece.expression kind body ∈ pieces → '\x7d' ∉ body
  plain : ∀ before c after, pieces = before ++ .plain c :: after →
    ¬ BeginsExpression (c :: after.flatMap QueryPiece.chars)

namespace IsLeftmost

variable {piece : QueryPiece} {rest : List QueryPiece}

theorem nil : IsLeftmost [] := by
  refine ⟨nofun, fun before c after split => ?_⟩
  cases before <;> cases split

theorem tail (h : IsLeftmost (piece :: rest)) : IsLeftmost rest := by
  refine ⟨fun kind body mem => h.closed kind body (List.mem_cons_of_mem piece mem), ?_⟩
  rintro before c after rfl
  exact h.plain (piece :: before) c after rfl

theorem cons_plain {c : Char} (here : ¬ BeginsExpression (c :: rest.flatMap QueryPiece.chars))
    (later : IsLeftmost rest) : IsLeftmost (.plain c :: rest) := by
  constructor
  · intro kind body mem
    rcases List.mem_cons.mp mem with same | mem
    · cases same
    · exact later.closed kind body mem
  · intro before d after split
    cases before with
    | nil =>
        cases split
        exact here
    | cons first before =>
        cases split
        exact later.plain before d after rfl

theorem cons_expression {kind : ExpressionKind} {body : List Char} (here : '\x7d' ∉ body)
    (later : IsLeftmost rest) : IsLeftmost (.expression kind body :: rest) := by
  constructor
  · intro kind' body' mem
    rcases List.mem_cons.mp mem with same | mem
    · cases same
      exact here
    · exact later.closed kind' body' mem
  · intro before d after split
    cases before with
    | nil => cases split
    | cons first before =>
        cases split
        exact later.plain before d after rfl

end IsLeftmost

/-- The pieces after some characters are those of what is left. -/
theorem queryPieces_eq_drop (skipped : Nat) (cs : List Char) :
    queryPieces skipped cs = queryPieces 0 (cs.drop skipped) := by
  induction cs generalizing skipped with
  | nil => rw [List.drop_nil, queryPieces, queryPieces]
  | cons c rest ih =>
      cases skipped with
      | zero => rfl
      | succ skipped => rw [queryPieces, ih, List.drop_succ_cons]

/-- Where a text begins with an expression, that is its first piece. -/
theorem queryPieces_expression_append (kind : ExpressionKind) {body : List Char}
    (closed : '\x7d' ∉ body) (rest : List Char) :
    queryPieces 0 ((QueryPiece.expression kind body).chars ++ rest)
      = .expression kind body :: queryPieces 0 rest := by
  have skip : ('#' :: '\x7b' :: (body ++ '\x7d' :: rest)).drop (body.length + 3) = rest := by simp
  rw [QueryPiece.chars_expression_append, queryPieces, expressionAt?_sigil kind closed]
  refine congrArg (QueryPiece.expression kind body :: ·) ?_
  rw [queryPieces_eq_drop, skip]

/-- A character at which no expression begins is a piece. -/
theorem queryPieces_plain_cons {c : Char} {rest : List Char}
    (none : ¬ BeginsExpression (c :: rest)) :
    queryPieces 0 (c :: rest) = .plain c :: queryPieces 0 rest := by
  rw [queryPieces, expressionAt?_eq_none_iff.mpr none]

/-- The pieces of a query are leftmost. -/
theorem isLeftmost_queryPieces (skipped : Nat) (cs : List Char) :
    IsLeftmost (queryPieces skipped cs) := by
  induction cs generalizing skipped with
  | nil =>
      rw [queryPieces]
      exact .nil
  | cons c rest ih =>
      cases skipped with
      | succ skipped =>
          rw [queryPieces]
          exact ih skipped
      | zero =>
          rw [queryPieces]
          split
          next kind body found =>
            exact .cons_expression (beginsExpression_of_expressionAt? found).1 (ih _)
          next none =>
            refine .cons_plain ?_ (ih 0)
            rw [flatMap_chars_queryPieces, List.drop_zero]
            exact expressionAt?_eq_none_iff.mp none

/-- Leftmost pieces are the pieces of their text. -/
theorem IsLeftmost.queryPieces_flatMap_chars {pieces : List QueryPiece} (h : IsLeftmost pieces) :
    queryPieces 0 (pieces.flatMap QueryPiece.chars) = pieces := by
  induction pieces with
  | nil => rw [List.flatMap_nil, queryPieces]
  | cons piece rest ih =>
      rw [List.flatMap_cons]
      cases piece with
      | plain c =>
          rw [QueryPiece.chars, List.singleton_append,
            queryPieces_plain_cons (h.plain [] c rest rfl), ih h.tail]
      | expression kind body =>
          rw [queryPieces_expression_append kind (h.closed kind body (List.mem_cons_self ..)),
            ih h.tail]

/-! ## Splits -/

/-- An expression with the text behind it, up to the next one. -/
structure SplitPart where
  kind : ExpressionKind
  body : List Char
  behind : List Char

/-- A text split at expressions. -/
structure QuerySplit where
  /-- The text before the first expression. -/
  front : List Char
  parts : List SplitPart

namespace QuerySplit

/-- The text that was split. -/
def text (s : QuerySplit) : List Char :=
  s.front ++ s.parts.flatMap fun part =>
    part.kind.sigil :: '#' :: '\x7b' :: part.body ++ '\x7d' :: part.behind

/-- The text with placeholders in place of the expressions, named by their positions. -/
def replaced (s : QuerySplit) : List Char :=
  s.front ++ s.parts.zipIdx.flatMap fun (part, position) =>
    ':' :: (syntheticName position).toList ++ part.behind

/-- The expressions with the names that stand for them. -/
def bindings (s : QuerySplit) : List ExpressionBinding :=
  s.parts.zipIdx.map fun (part, position) =>
    ⟨syntheticName position, String.ofList part.body, part.kind⟩

/-- The expressions of a split and the characters outside them, in order. -/
def pieces (s : QuerySplit) : List QueryPiece :=
  s.front.map .plain ++ s.parts.flatMap fun part =>
    .expression part.kind part.body :: part.behind.map .plain

/-- Whether a text is split at its expressions, taken from left to right. -/
structure IsSplitOf (s : QuerySplit) (cs : List Char) : Prop where
  text : s.text = cs
  leftmost : IsLeftmost s.pieces

/-- The split with given pieces. -/
def ofPieces : List QueryPiece → QuerySplit
  | [] => ⟨[], []⟩
  | .plain c :: rest => ⟨c :: (ofPieces rest).front, (ofPieces rest).parts⟩
  | .expression kind body :: rest =>
      ⟨[], ⟨kind, body, (ofPieces rest).front⟩ :: (ofPieces rest).parts⟩

theorem pieces_ofPieces (pieces : List QueryPiece) : (ofPieces pieces).pieces = pieces := by
  induction pieces with
  | nil => rfl
  | cons piece rest ih =>
      cases piece with
      | plain c => exact congrArg (QueryPiece.plain c :: ·) ih
      | expression kind body => exact congrArg (QueryPiece.expression kind body :: ·) ih

theorem ofPieces_map_plain_append (cs : List Char) (pieces : List QueryPiece) :
    ofPieces (cs.map .plain ++ pieces)
      = ⟨cs ++ (ofPieces pieces).front, (ofPieces pieces).parts⟩ := by
  induction cs with
  | nil => rfl
  | cons c rest ih => rw [List.map_cons, List.cons_append, ofPieces, ih, List.cons_append]

theorem ofPieces_pieces (s : QuerySplit) : ofPieces s.pieces = s := by
  have parts : ofPieces (s.parts.flatMap fun part =>
      .expression part.kind part.body :: part.behind.map .plain) = ⟨[], s.parts⟩ := by
    induction s.parts with
    | nil => rfl
    | cons part rest ih =>
        rw [List.flatMap_cons, List.cons_append, ofPieces, ofPieces_map_plain_append, ih,
          List.append_nil]
  rw [pieces, ofPieces_map_plain_append, parts, List.append_nil]

/-- The text of a split is that of its pieces. -/
theorem flatMap_chars_pieces (s : QuerySplit) : s.pieces.flatMap QueryPiece.chars = s.text := by
  have plain (cs : List Char) : (cs.map QueryPiece.plain).flatMap QueryPiece.chars = cs := by
    induction cs with
    | nil => rfl
    | cons c rest ih => exact congrArg (c :: ·) ih
  rw [pieces, text, List.flatMap_append, plain, List.flatMap_assoc]
  refine congrArg (s.front ++ ·) (congrArg (s.parts.flatMap ·) (funext fun part => ?_))
  rw [List.flatMap_cons, plain, QueryPiece.chars_expression_append]
  rfl

theorem replacePieces_map_plain_append (position : Nat) (cs : List Char)
    (pieces : List QueryPiece) :
    replacePieces position (cs.map .plain ++ pieces) = cs ++ replacePieces position pieces := by
  induction cs with
  | nil => rfl
  | cons c rest ih => exact congrArg (c :: ·) ih

theorem bindingsOf_map_plain_append (position : Nat) (cs : List Char)
    (pieces : List QueryPiece) :
    bindingsOf position (cs.map .plain ++ pieces) = bindingsOf position pieces := by
  induction cs with
  | nil => rfl
  | cons c rest ih => exact ih

/-- Replacing the expressions of a split names them by their positions. -/
theorem replacePieces_pieces (s : QuerySplit) : replacePieces 0 s.pieces = s.replaced := by
  have parts (position : Nat) : replacePieces position (s.parts.flatMap fun part =>
        .expression part.kind part.body :: part.behind.map .plain)
      = (s.parts.zipIdx position).flatMap fun (part, position) =>
        ':' :: (syntheticName position).toList ++ part.behind := by
    induction s.parts generalizing position with
    | nil => rfl
    | cons part rest ih =>
        rw [List.flatMap_cons, List.cons_append, replacePieces, replacePieces_map_plain_append, ih,
          List.zipIdx_cons, List.flatMap_cons, List.append_assoc]
  rw [pieces, replacePieces_map_plain_append, parts, replaced]

theorem bindingsOf_pieces (s : QuerySplit) : bindingsOf 0 s.pieces = s.bindings := by
  have parts (position : Nat) : bindingsOf position (s.parts.flatMap fun part =>
        .expression part.kind part.body :: part.behind.map .plain)
      = (s.parts.zipIdx position).map fun (part, position) =>
        ⟨syntheticName position, String.ofList part.body, part.kind⟩ := by
    induction s.parts generalizing position with
    | nil => rfl
    | cons part rest ih =>
        rw [List.flatMap_cons, List.cons_append, bindingsOf, bindingsOf_map_plain_append, ih,
          List.zipIdx_cons, List.map_cons]
  rw [pieces, bindingsOf_map_plain_append, parts, bindings]

/-- A text has one split, which has the pieces of the text. -/
theorem isSplitOf_iff {s : QuerySplit} {cs : List Char} :
    s.IsSplitOf cs ↔ s = ofPieces (queryPieces 0 cs) := by
  constructor
  · rintro ⟨rfl, leftmost⟩
    rw [← flatMap_chars_pieces, leftmost.queryPieces_flatMap_chars, ofPieces_pieces]
  · rintro rfl
    constructor
    · rw [← flatMap_chars_pieces, pieces_ofPieces, flatMap_chars_queryPieces, List.drop_zero]
    · rw [pieces_ofPieces]
      exact isLeftmost_queryPieces 0 cs

end QuerySplit

/-! ## Replacing again -/

/-- Word characters introduce no expression. -/
theorem queryPieces_word_append {word : List Char}
    (h : ∀ c ∈ word, Text.isAsciiWord c = true) (rest : List Char) :
    queryPieces 0 (word ++ rest) = word.map .plain ++ queryPieces 0 rest := by
  induction word with
  | nil => rfl
  | cons c word ih =>
      obtain ⟨first, later⟩ := List.forall_mem_cons.mp h
      have none : ExpressionKind.ofChar? c = none := by
        cases found : ExpressionKind.ofChar? c with
        | none => rfl
        | some kind =>
            rw [← ExpressionKind.sigil_of_ofChar found] at first
            cases kind <;> cases first
      have plain : expressionAt? c (word ++ rest) = Option.none := by
        rw [expressionAt?, none]
      rw [List.cons_append, queryPieces, plain, List.map_cons, List.cons_append]
      exact congrArg (QueryPiece.plain c :: ·) (ih later)

/-- A closing brace among replaced pieces was there before. -/
theorem mem_chars_of_mem_replacePieces {position : Nat} {pieces : List QueryPiece}
    (h : '\x7d' ∈ replacePieces position pieces) :
    '\x7d' ∈ pieces.flatMap QueryPiece.chars := by
  induction pieces generalizing position with
  | nil => cases h
  | cons piece rest ih =>
      cases piece with
      | plain c =>
          rw [List.flatMap_cons, List.mem_append]
          rcases List.mem_cons.mp h with rfl | later
          · exact .inl (List.mem_singleton.mpr rfl)
          · exact .inr (ih later)
      | expression kind body =>
          rw [List.flatMap_cons, List.mem_append]
          refine .inl ?_
          simp [QueryPiece.chars]

/-- A character that replaced pieces begin with, and that introduces no expression, is there
before. -/
theorem exists_plain_of_replacePieces {position : Nat} {pieces : List QueryPiece} {c : Char}
    {rest : List Char} (other : c ≠ ':') (h : replacePieces position pieces = c :: rest) :
    ∃ later, pieces = .plain c :: later ∧ replacePieces position later = rest := by
  cases pieces with
  | nil => cases h
  | cons piece later =>
      cases piece with
      | plain d =>
          cases h
          exact ⟨later, rfl, rfl⟩
      | expression kind body =>
          cases h
          exact absurd rfl other

/-- Where no expression begins, none does after those behind are replaced. -/
theorem not_beginsExpression_replacePieces {c : Char} {position : Nat} {rest : List QueryPiece}
    (h : ¬ BeginsExpression (c :: rest.flatMap QueryPiece.chars)) :
    ¬ BeginsExpression (c :: replacePieces position rest) := by
  rintro ⟨kind, body, after, -, same⟩
  rw [QueryPiece.chars_expression_append] at same
  obtain ⟨rfl, opened⟩ := List.cons.inj same
  obtain ⟨others, rfl, braced⟩ := exists_plain_of_replacePieces (by decide) opened
  obtain ⟨inside, rfl, filled⟩ := exists_plain_of_replacePieces (by decide) braced
  have closing : '\x7d' ∈ inside.flatMap QueryPiece.chars := by
    have inner : '\x7d' ∈ replacePieces position inside := by
      rw [filled]
      simp
    exact mem_chars_of_mem_replacePieces inner
  obtain ⟨first, behind, split, closed⟩ := List.eq_append_cons_of_mem closing
  refine h ⟨kind, first, behind, closed, ?_⟩
  rw [QueryPiece.chars_expression_append, ← split]
  rfl

/-- Replaced pieces have no expression. -/
theorem queryPieces_replacePieces {pieces : List QueryPiece} (h : IsLeftmost pieces)
    (position : Nat) :
    queryPieces 0 (replacePieces position pieces)
      = (replacePieces position pieces).map .plain := by
  induction pieces generalizing position with
  | nil => rw [replacePieces, queryPieces, List.map_nil]
  | cons piece rest ih =>
      cases piece with
      | plain c =>
          have begins : ¬ BeginsExpression (c :: replacePieces position rest) :=
            not_beginsExpression_replacePieces (h.plain [] c rest rfl)
          have none := expressionAt?_eq_none_iff.mpr begins
          rw [replacePieces, queryPieces, none, List.map_cons]
          exact congrArg (QueryPiece.plain c :: ·) (ih h.tail position)
      | expression kind body =>
          -- The name begins with an underscore, so the colon before it begins no expression.
          have none (rest : List Char) :
              expressionAt? ':' ((syntheticName position).toList ++ rest) = Option.none := by
            rw [toList_syntheticName]
            rfl
          rw [replacePieces, List.cons_append, queryPieces, none,
            queryPieces_word_append fun c => word_of_mem_syntheticName, ih h.tail, List.map_cons,
            List.map_append]

theorem bindingsOf_map_plain (position : Nat) (cs : List Char) :
    bindingsOf position (cs.map .plain) = [] := by
  rw [← List.append_nil (cs.map _), QuerySplit.bindingsOf_map_plain_append, bindingsOf]

theorem replacePieces_map_plain (position : Nat) (cs : List Char) :
    replacePieces position (cs.map .plain) = cs := by
  rw [← List.append_nil (cs.map _), QuerySplit.replacePieces_map_plain_append, replacePieces,
    List.append_nil]

namespace ExpressionQuery

/-- A query is split at its expressions in one way.  The new query has the texts of the split
with placeholders between them, named by the positions of the expressions, and each
expression is bound under its name.  The new query has no expression. -/
theorem create_split (q : String) :
    ∃ split : QuerySplit, (∀ other : QuerySplit, other.IsSplitOf q.toList ↔ other = split) ∧
      (create q).query = String.ofList split.replaced ∧ (create q).bindings = split.bindings ∧
      create (create q).query = ⟨(create q).query, []⟩ := by
  have query : (create q).query = String.ofList (replacePieces 0 (queryPieces 0 q.toList)) := rfl
  have bindings : (create q).bindings = bindingsOf 0 (queryPieces 0 q.toList) := rfl
  refine ⟨.ofPieces (queryPieces 0 q.toList), fun other => QuerySplit.isSplitOf_iff, ?_, ?_, ?_⟩
  · rw [query, ← QuerySplit.replacePieces_pieces, QuerySplit.pieces_ofPieces]
  · rw [bindings, ← QuerySplit.bindingsOf_pieces, QuerySplit.pieces_ofPieces]
  · rw [create, query, String.toList_ofList,
      queryPieces_replacePieces (isLeftmost_queryPieces 0 q.toList), bindingsOf_map_plain,
      replacePieces_map_plain]

end ExpressionQuery

end DataMapper
