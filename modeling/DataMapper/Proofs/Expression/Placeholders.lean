import DataMapper.Proofs.Expression.Pieces
import DataMapper.Proofs.Template.Placeholders

/-!
# Expressions as placeholders

An expression is replaced by a sigil and the name that stands for it, wherever it is in
the query.  The text around it decides whether a template has a placeholder there:
it must stand free (`StandsFree`), outside the regions, behind a character that lets a
placeholder begin, and without a word character after it.

A placeholder with such a name is at an expression, or the query itself spells the name
(`exists_expression_of_sigil`).  So all names are parameters when all expressions stand
free, and in a query that spells none of the names only then
(`ExpressionQuery.names_of_create`).
-/

namespace DataMapper

/-- Whether a marker between two parts of a text with regions stands free. -/
structure StandsFree (regions : List (Nat × Nat)) (before after : List Char) : Prop where
  outside : ∀ region ∈ regions, before.length < region.1 ∨ region.2 ≤ before.length
  free : lastBlocks before = false
  ends : after.head?.any Text.isAsciiWord = false

/-- The word characters from the name of an expression on. -/
theorem takeWhile_syntheticName (position : Nat) (after : List Char) :
    ((syntheticName position).toList ++ after).takeWhile Text.isAsciiWord
      = (syntheticName position).toList ++ after.takeWhile Text.isAsciiWord :=
  List.takeWhile_append_of_pos fun _ hc => word_of_mem_syntheticName hc

/-- Nothing is taken where the first character is not one to take. -/
theorem takeWhile_eq_nil_iff_head {p : Char → Bool} {cs : List Char} :
    cs.takeWhile p = [] ↔ cs.head?.any p = false := by
  cases cs with
  | nil => exact ⟨fun _ => rfl, fun _ => rfl⟩
  | cons c rest =>
      rw [List.takeWhile_cons, List.head?_cons, Option.any_some]
      cases p c with
      | true => exact ⟨nofun, nofun⟩
      | false => exact ⟨fun _ => rfl, fun _ => rfl⟩

/-- A marker is a placeholder where it stands free. -/
theorem isPlaceholder_syntheticName_iff {regions : List (Nat × Nat)} {before after : List Char}
    {position : Nat} :
    IsPlaceholder (before ++ ':' :: ((syntheticName position).toList ++ after)) regions
      before.length (syntheticName position) ↔ StandsFree regions before after := by
  have start :
      ((syntheticName position).toList ++ after).head?.any Text.isAsciiWordStart = true := by
    rw [toList_syntheticName]
    rfl
  rw [isPlaceholder_iff, takeWhile_syntheticName, List.self_eq_append_right,
    takeWhile_eq_nil_iff_head]
  constructor
  · rintro ⟨outside, -, free, -, ends⟩
    exact ⟨outside, free, ends⟩
  · rintro ⟨outside, free, ends⟩
    exact ⟨outside, rfl, free, start, ends⟩

/-- Word characters before an expression are characters of the query. -/
theorem takeWhile_replacePieces (position : Nat) (pieces : List QueryPiece) :
    (replacePieces position pieces).takeWhile Text.isAsciiWord
      <+: pieces.flatMap QueryPiece.chars := by
  induction pieces generalizing position with
  | nil => exact List.nil_prefix
  | cons piece rest ih =>
      cases piece with
      | plain c =>
          rw [replacePieces, List.takeWhile_cons]
          split
          · exact List.cons_prefix_cons.mpr ⟨rfl, ih position⟩
          · exact List.nil_prefix
      | expression kind body => exact List.nil_prefix

/-- A sigil with a name after it is the marker of an expression, or the name is spelled
in the query. -/
theorem exists_expression_of_sigil {name : List Char} (position place : Nat)
    (pieces : List QueryPiece)
    (sigil : ∃ c, (replacePieces position pieces)[place]? = some c ∧ isSigil c = true)
    (run : name = ((replacePieces position pieces).drop (place + 1)).takeWhile Text.isAsciiWord) :
    (∃ before kind body after, pieces = before ++ .expression kind body :: after ∧
      place = (replacePieces position before).length) ∨
    name <:+: pieces.flatMap QueryPiece.chars := by
  induction pieces generalizing position place with
  | nil =>
      obtain ⟨c, hc, -⟩ := sigil
      cases hc
  | cons piece rest ih =>
      cases piece with
      | plain c =>
          cases place with
          | zero =>
              have front : name <+: rest.flatMap QueryPiece.chars := by
                rw [run]
                exact takeWhile_replacePieces position rest
              exact .inr (List.infix_cons front.isInfix)
          | succ place =>
              rcases ih position place sigil run with
                ⟨before, kind, body, after, rfl, rfl⟩ | spelled
              · exact .inl ⟨.plain c :: before, kind, body, after, rfl, rfl⟩
              · exact .inr (List.infix_cons spelled)
      | expression kind body =>
          cases place with
          | zero => exact .inl ⟨[], kind, body, rest, rfl, rfl⟩
          | succ place =>
              rw [replacePieces, List.cons_append, List.getElem?_cons_succ] at sigil
              rw [replacePieces, List.cons_append, List.drop_succ_cons] at run
              -- No character of the name is a sigil, so the place is behind it.
              rcases Nat.lt_or_ge place (syntheticName position).toList.length with inside | past
              · obtain ⟨c, hc, isSigil⟩ := sigil
                rw [List.getElem?_append_left inside] at hc
                have word := word_of_mem_syntheticName (List.mem_of_getElem? hc)
                rw [isSigil_of_word word] at isSigil
                cases isSigil
              · obtain ⟨place, rfl⟩ := Nat.exists_eq_add_of_le past
                rw [List.getElem?_append_right past, Nat.add_sub_cancel_left] at sigil
                rw [Nat.add_assoc, List.drop_append, List.drop_of_length_le (Nat.le_add_right ..),
                  List.nil_append, Nat.add_sub_cancel_left] at run
                rcases ih (position + 1) place sigil run with
                  ⟨before, kind', body', after, rfl, rfl⟩ | spelled
                · refine .inl ⟨.expression kind body :: before, kind', body', after, rfl, ?_⟩
                  rw [replacePieces, List.cons_append, List.length_cons, List.length_append]
                · refine .inr (spelled.trans ?_)
                  rw [List.flatMap_cons]
                  exact (List.suffix_append ..).isInfix

namespace ExpressionQuery

/-- A query without underscores spells no name of an expression. -/
theorem unspelled_of_not_mem {q : String} (h : '_' ∉ q.toList) (position : Nat) :
    ¬ (syntheticName position).toList <:+: q.toList := by
  intro spelled
  refine h (spelled.subset ?_)
  rw [toList_syntheticName]
  exact List.mem_append_left _ (by decide)

/-- The text of a query is split at an expression as the query is. -/
theorem query_of_split {q : String} {before after : List QueryPiece} {kind : ExpressionKind}
    {body : List Char} (split : queryPieces 0 q.toList = before ++ .expression kind body :: after) :
    (create q).query.toList = replacePieces 0 before ++ ':' ::
      ((syntheticName (expressionCount before)).toList
        ++ replacePieces (expressionCount before + 1) after) := by
  rw [create, String.toList_ofList, split, replacePieces_append, Nat.zero_add, replacePieces,
    List.cons_append]

/-- The name of an expression that stands free is a parameter. -/
theorem mem_names_of_standsFree {q : String} {regions : List (Nat × Nat)}
    (opaqueFrom : OpaqueFrom (create q).query.toList 0 regions) {before after : List QueryPiece}
    {kind : ExpressionKind} {body : List Char}
    (split : queryPieces 0 q.toList = before ++ .expression kind body :: after)
    (free : StandsFree regions (replacePieces 0 before)
      (replacePieces (expressionCount before + 1) after)) :
    syntheticName (expressionCount before) ∈ (Template.parse (create q).query).names := by
  refine (Template.mem_names_iff opaqueFrom).mpr ⟨(replacePieces 0 before).length, ?_⟩
  rw [query_of_split split]
  exact isPlaceholder_syntheticName_iff.mpr free

/-- An expression stands free if its name is a parameter that the query does not spell. -/
theorem standsFree_of_mem_names {q : String} {regions : List (Nat × Nat)}
    (opaqueFrom : OpaqueFrom (create q).query.toList 0 regions) {before after : List QueryPiece}
    {kind : ExpressionKind} {body : List Char}
    (split : queryPieces 0 q.toList = before ++ .expression kind body :: after)
    (unspelled : ¬ (syntheticName (expressionCount before)).toList <:+: q.toList)
    (found : syntheticName (expressionCount before) ∈ (Template.parse (create q).query).names) :
    StandsFree regions (replacePieces 0 before)
      (replacePieces (expressionCount before + 1) after) := by
  obtain ⟨place, found⟩ := (Template.mem_names_iff opaqueFrom).mp found
  rcases exists_expression_of_sigil 0 place (queryPieces 0 q.toList)
      (by simpa [create] using found.sigil) (by simpa [create] using found.run) with
    ⟨before', kind', body', after', split', rfl⟩ | spelled
  · rw [query_of_split split'] at found
    obtain ⟨-, -, -, -, run⟩ := isPlaceholder_iff.mp found
    rw [takeWhile_syntheticName] at run
    have same : before' = before :=
      eq_of_expressionCount_eq (split'.symm.trans split) (syntheticName_append_inj run.symm)
    subst same
    cases List.append_cancel_left (split'.symm.trans split)
    exact isPlaceholder_syntheticName_iff.mp found
  · rw [flatMap_chars_queryPieces] at spelled
    exact absurd spelled unspelled

/-- Whether all expressions of a query stand free in its text, whose regions are given. -/
def AllStandFree (q : String) (regions : List (Nat × Nat)) : Prop :=
  ∀ before kind body after, queryPieces 0 q.toList = before ++ .expression kind body :: after →
    StandsFree regions (replacePieces 0 before) (replacePieces (expressionCount before + 1) after)

/-- The names that stand for the expressions of a query are parameters of its text when all
expressions stand free, and only then if the query itself spells none of them. -/
theorem names_of_create (q : String) :
    ∃ regions, (∀ others, OpaqueFrom (create q).query.toList 0 others ↔ others = regions) ∧
      (AllStandFree q regions → ∀ binding ∈ (create q).bindings,
        binding.name ∈ (Template.parse (create q).query).names) ∧
      ((∀ position, ¬ (syntheticName position).toList <:+: q.toList) →
        (∀ binding ∈ (create q).bindings,
          binding.name ∈ (Template.parse (create q).query).names) → AllStandFree q regions) := by
  obtain ⟨regions, opaqueFrom⟩ := exists_opaqueFrom (create q).query.toList
  refine ⟨regions, fun others => ⟨fun h => h.unique opaqueFrom, fun h => h ▸ opaqueFrom⟩, ?_, ?_⟩
  · intro free binding hbinding
    obtain ⟨before, kind, body, after, split, rfl⟩ := mem_bindingsOf.mp hbinding
    rw [Nat.zero_add]
    exact mem_names_of_standsFree opaqueFrom split (free before kind body after split)
  · intro unspelled all before kind body after split
    refine standsFree_of_mem_names opaqueFrom split (unspelled _) ?_
    have bound : ⟨syntheticName (0 + expressionCount before), String.ofList body, kind⟩
        ∈ (create q).bindings := mem_bindingsOf.mpr ⟨before, kind, body, after, split, rfl⟩
    rw [Nat.zero_add] at bound
    exact all _ bound

/-- The expression behind a comparison has a name that is a parameter and that the query does
not spell, so it stands free. -/
theorem names_of_create_comparison :
    ∃ regions, OpaqueFrom (create "a = :#\x7bx\x7d").query.toList 0 regions ∧
      (∀ position, ¬ (syntheticName position).toList <:+: "a = :#\x7bx\x7d".toList) ∧
      (∀ binding ∈ (create "a = :#\x7bx\x7d").bindings,
        binding.name ∈ (Template.parse (create "a = :#\x7bx\x7d").query).names) ∧
      AllStandFree "a = :#\x7bx\x7d" regions := by
  obtain ⟨regions, only, -, free⟩ := names_of_create "a = :#\x7bx\x7d"
  have unspelled := unspelled_of_not_mem (q := "a = :#\x7bx\x7d") (by decide)
  have all : ∀ binding ∈ (create "a = :#\x7bx\x7d").bindings,
      binding.name ∈ (Template.parse (create "a = :#\x7bx\x7d").query).names := by
    decide +kernel
  exact ⟨regions, (only regions).mpr rfl, unspelled, all, free unspelled all⟩

/-- An expression in quoted text is replaced, and its name is no parameter. -/
theorem names_of_create_quoted :
    ¬ ∀ binding ∈ (create "SELECT ':#\x7bx\x7d'").bindings,
      binding.name ∈ (Template.parse (create "SELECT ':#\x7bx\x7d'").query).names := by
  decide +kernel

end ExpressionQuery

end DataMapper
