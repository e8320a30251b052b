import DataMapper.Expression
import DataMapper.Proofs.Marker.Run
import DataMapper.Text.CharClass

/-!
# The pieces of a query

The pieces of a query give its characters back (`flatMap_chars_queryPieces`).  Where
pieces are split, so are the characters with placeholders in place of expressions
(`replacePieces_append`), the expressions before the split being counted.

The names that stand for expressions are word characters, and what such a name begins
with tells its number (`syntheticName_append_inj`).
-/

namespace DataMapper

/-! ## Characters of pieces -/

/-- A character that is not in a list ends it. -/
theorem takeWhile_ne_append_cons {x : Char} {body : List Char} (h : x ∉ body)
    (rest : List Char) : (body ++ x :: rest).takeWhile (· ≠ x) = body := by
  have all : ∀ c ∈ body, decide (c ≠ x) = true := by
    intro c hc
    refine decide_eq_true ?_
    rintro rfl
    exact h hc
  rw [List.takeWhile_append_of_pos all, List.takeWhile_cons_of_neg (by simp), List.append_nil]

/-- The body of an expression stands between braces and holds no closing one. -/
theorem append_of_bracedBody {cs body : List Char} (h : bracedBody? cs = some body) :
    '\x7d' ∉ body ∧ ∃ rest, cs = '#' :: '\x7b' :: body ++ '\x7d' :: rest := by
  unfold bracedBody? at h
  split at h
  next inside =>
    split at h
    next closed =>
      obtain ⟨first, rest, rfl, plain⟩ :=
        List.eq_append_cons_of_mem (List.contains_iff_mem.mp closed)
      rw [takeWhile_ne_append_cons plain] at h
      cases h
      exact ⟨plain, rest, rfl⟩
    next => cases h
  next => cases h

/-- An expression begins with its sigil. -/
theorem ExpressionKind.sigil_of_ofChar {c : Char} {kind : ExpressionKind}
    (h : ofChar? c = some kind) : kind.sigil = c := by
  unfold ofChar? at h
  split at h
  next named =>
    cases h
    exact named.symm
  next =>
    split at h
    next positional =>
      cases h
      exact positional.symm
    next => cases h

/-- An expression at a character has the characters from there on. -/
theorem append_of_expressionAt {c : Char} {cs body : List Char} {kind : ExpressionKind}
    (h : expressionAt? c cs = some (kind, body)) :
    kind.sigil = c ∧ '\x7d' ∉ body ∧ ∃ rest, cs = '#' :: '\x7b' :: body ++ '\x7d' :: rest := by
  unfold expressionAt? at h
  split at h
  next hkind hbody =>
    cases h
    exact ⟨ExpressionKind.sigil_of_ofChar hkind, append_of_bracedBody hbody⟩
  next => cases h

/-- The pieces have the characters of the query. -/
theorem flatMap_chars_queryPieces (skipped : Nat) (cs : List Char) :
    (queryPieces skipped cs).flatMap QueryPiece.chars = cs.drop skipped := by
  induction cs generalizing skipped with
  | nil => rw [queryPieces, List.drop_nil, List.flatMap_nil]
  | cons c rest ih =>
      cases skipped with
      | succ skipped => rw [queryPieces, ih, List.drop_succ_cons]
      | zero =>
          rw [queryPieces, List.drop_zero]
          cases found : expressionAt? c rest with
          | none => exact congrArg (c :: ·) (ih 0)
          | some expression =>
              obtain ⟨sigil, -, after, split⟩ := append_of_expressionAt found
              have skip : rest.drop (expression.2.length + 3) = after := by
                rw [split]
                simp
              refine (List.flatMap_cons ..).trans ?_
              rw [ih, skip, split, QueryPiece.chars, sigil]
              simp

/-! ## Expressions -/

/-- The number of expressions among pieces. -/
def expressionCount : List QueryPiece → Nat
  | [] => 0
  | .plain _ :: rest => expressionCount rest
  | .expression _ _ :: rest => expressionCount rest + 1

theorem expressionCount_append (a b : List QueryPiece) :
    expressionCount (a ++ b) = expressionCount a + expressionCount b := by
  induction a with
  | nil => exact (Nat.zero_add _).symm
  | cons piece rest ih =>
      cases piece with
      | plain c => exact ih
      | expression kind body =>
          rw [List.cons_append, expressionCount, expressionCount, ih, Nat.add_right_comm]

/-- There are more expressions behind an expression than before it. -/
theorem expressionCount_lt (before after : List QueryPiece) (kind : ExpressionKind)
    (body : List Char) :
    expressionCount before < expressionCount (before ++ .expression kind body :: after) := by
  rw [expressionCount_append, expressionCount]
  omega

/-- Expressions are counted on after the first pieces. -/
theorem replacePieces_append (position : Nat) (a b : List QueryPiece) :
    replacePieces position (a ++ b)
      = replacePieces position a ++ replacePieces (position + expressionCount a) b := by
  induction a generalizing position with
  | nil => rfl
  | cons piece rest ih =>
      cases piece with
      | plain c => exact congrArg (c :: ·) (ih position)
      | expression kind body =>
          rw [List.cons_append, replacePieces, ih, replacePieces, expressionCount,
            List.append_assoc, Nat.add_right_comm, Nat.add_assoc position]

/-- Each expression has a binding under the name of its position, and there are no others. -/
theorem mem_bindingsOf {position : Nat} {pieces : List QueryPiece} {binding : ExpressionBinding} :
    binding ∈ bindingsOf position pieces ↔
      ∃ before kind body after, pieces = before ++ .expression kind body :: after ∧
        binding
          = ⟨syntheticName (position + expressionCount before), String.ofList body, kind⟩ := by
  induction pieces generalizing position with
  | nil => exact ⟨nofun, fun ⟨before, _, _, _, h, _⟩ => by cases before <;> cases h⟩
  | cons piece rest ih =>
      cases piece with
      | plain c =>
          rw [bindingsOf, ih]
          constructor
          · rintro ⟨before, kind, body, after, rfl, rfl⟩
            exact ⟨.plain c :: before, kind, body, after, rfl, rfl⟩
          · rintro ⟨before, kind, body, after, split, rfl⟩
            cases before with
            | nil => cases split
            | cons first before =>
                cases split
                exact ⟨before, kind, body, after, rfl, rfl⟩
      | expression kind body =>
          rw [bindingsOf, List.mem_cons, ih]
          constructor
          · rintro (rfl | ⟨before, kind', body', after, rfl, rfl⟩)
            · exact ⟨[], kind, body, rest, rfl, rfl⟩
            · refine ⟨.expression kind body :: before, kind', body', after, rfl, ?_⟩
              rw [expressionCount, Nat.add_right_comm, Nat.add_assoc position]
          · rintro ⟨before, kind', body', after, split, rfl⟩
            cases before with
            | nil =>
                cases split
                exact .inl rfl
            | cons first before =>
                cases split
                refine .inr ⟨before, kind', body', after, rfl, ?_⟩
                rw [expressionCount, Nat.add_right_comm, Nat.add_assoc position]

/-- An expression is known by its position. -/
theorem eq_of_expressionCount_eq {before before' after after' : List QueryPiece}
    {kind kind' : ExpressionKind} {body body' : List Char}
    (h : before ++ .expression kind body :: after = before' ++ .expression kind' body' :: after')
    (same : expressionCount before = expressionCount before') : before = before' := by
  rcases List.append_eq_append_iff.mp h with ⟨more, rfl, tail⟩ | ⟨more, rfl, tail⟩
  · cases more with
    | nil => rw [List.append_nil]
    | cons piece more =>
        cases tail
        exact absurd same (Nat.ne_of_lt (expressionCount_lt ..))
  · cases more with
    | nil => rw [List.append_nil]
    | cons piece more =>
        cases tail
        exact absurd same.symm (Nat.ne_of_lt (expressionCount_lt ..))

/-! ## Names -/

theorem toList_syntheticName (position : Nat) :
    (syntheticName position).toList
      = "__synthetic_".toList ++ (Nat.toDigits 10 position ++ ['_', '_']) := by
  have digits : (toString position).toList = Nat.toDigits 10 position := Nat.toList_repr
  rw [syntheticName, String.toList_append, String.toList_append, digits, List.append_assoc]
  rfl

/-- The names consist of word characters. -/
theorem word_of_mem_syntheticName {position : Nat} {c : Char}
    (h : c ∈ (syntheticName position).toList) : Text.isAsciiWord c = true := by
  rw [toList_syntheticName, List.mem_append, List.mem_append] at h
  rcases h with front | digit | back
  · exact List.all_eq_true.mp (by decide) c front
  · have isDigit : c.isDigit = true :=
      Nat.isDigit_of_mem_toDigits (by decide) (by decide) digit
    exact Text.isAsciiWord_of_isDigit isDigit
  · exact List.all_eq_true.mp (by decide) c back

/-- A name that goes on to another one is that one. -/
theorem syntheticName_append_inj {i j : Nat} {rest : List Char}
    (h : (syntheticName i).toList ++ rest = (syntheticName j).toList) : i = j := by
  rw [toList_syntheticName, toList_syntheticName, List.append_assoc, List.append_assoc] at h
  exact digits_append_inj (.inr ⟨_, rfl⟩) (.inr ⟨_, rfl⟩)
    (List.append_cancel_left h)

end DataMapper
