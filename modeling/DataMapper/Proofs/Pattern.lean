import DataMapper.Proofs.Binder
import DataMapper.Proofs.Expression.Split

/-!
# Patterns of characters

The expressions of a query and the mentions of a name in one are found by regular patterns.  A
`Pattern` is such a pattern, and `Pattern.Matches` says which part of a text it matches, given the
characters before the part and behind it.  Two things are asked of a pattern.

* Whether it matches some part of a text (`Pattern.FoundIn`).
* Its matches one after the other (`Pattern.Successive`).  A text is read from left to right, a
  character is passed over only where no match begins, and behind a match reading goes on.

`Pattern.expression` is the pattern `[:?]#\{[^}]*\}`.  It matches the expressions and nothing else,
at most one at a place, and the pieces of a query are what its successive matches leave
(`successive_expression_iff`).  `Pattern.mention` is the pattern `(\W|^)[:#$@]name(\W|$)`, and a
query mentions a name exactly when it is found (`mentions_iff_foundIn`).
-/

namespace DataMapper

/-- A regular pattern. -/
inductive Pattern where
  /-- A character that passes a test. -/
  | char (test : Char → Bool)
  /-- Nothing, where a text begins. -/
  | begins
  /-- Nothing, where a text ends. -/
  | ends
  | seq (first next : Pattern)
  | either (first second : Pattern)
  /-- Any number of matches, one behind the other. -/
  | many (each : Pattern)

namespace Pattern

/-- Some characters and then a pattern. -/
def text (cs : List Char) (rest : Pattern) : Pattern :=
  cs.foldr (fun c later => .seq (.char (· == c)) later) rest

/-- An expression: its sigil, a hash sign, and braces around its body. -/
def expression : Pattern :=
  .seq (.char fun c => c == ':' || c == '?')
    (.text ['#', '\x7b'] (.seq (.many (.char (· != '\x7d'))) (.char (· == '\x7d'))))

/-- A mention of a name: a sigil and the name, between characters that are in no word or at the
ends of the text. -/
def mention (name : List Char) : Pattern :=
  .seq (.either (.char fun c => !Text.isWord c) .begins)
    (.seq (.char isSigil) (.text name (.either (.char fun c => !Text.isWord c) .ends)))

/-- Whether a pattern matches a part of a text, given what is before it and what is behind it. -/
inductive Matches : Pattern → List Char → List Char → List Char → Prop where
  | char {test : Char → Bool} {c : Char} {before behind : List Char} (passes : test c = true) :
      Matches (.char test) before [c] behind
  | begins {behind : List Char} : Matches .begins [] [] behind
  | ends {before : List Char} : Matches .ends before [] []
  | seq {p q : Pattern} {before a b behind : List Char} (first : Matches p before a (b ++ behind))
      (next : Matches q (before ++ a) b behind) : Matches (.seq p q) before (a ++ b) behind
  | first {p q : Pattern} {before part behind : List Char} (h : Matches p before part behind) :
      Matches (.either p q) before part behind
  | second {p q : Pattern} {before part behind : List Char} (h : Matches q before part behind) :
      Matches (.either p q) before part behind
  | none {p : Pattern} {before behind : List Char} : Matches (.many p) before [] behind
  | more {p : Pattern} {before a b behind : List Char} (first : Matches p before a (b ++ behind))
      (others : Matches (.many p) (before ++ a) b behind) : Matches (.many p) before (a ++ b) behind

/-- Whether a pattern matches some part of a text. -/
def FoundIn (p : Pattern) (cs : List Char) : Prop :=
  ∃ before part behind, cs = before ++ part ++ behind ∧ p.Matches before part behind

/-- What is met in a text, given what is before it: the characters that are passed over, and the
parts that a pattern matches, none of them empty. -/
inductive Successive (p : Pattern) : List Char → List Char → List (Char ⊕ List Char) → Prop where
  | done {before : List Char} : Successive p before [] []
  | passed {before rest : List Char} {c : Char} {met : List (Char ⊕ List Char)}
      (nowhere : ∀ part behind, c :: rest = part ++ behind → ¬ p.Matches before part behind)
      (later : Successive p (before ++ [c]) rest met) :
      Successive p before (c :: rest) (.inl c :: met)
  | taken {before part behind : List Char} {met : List (Char ⊕ List Char)} (filled : part ≠ [])
      (here : p.Matches before part behind) (later : Successive p (before ++ part) behind met) :
      Successive p before (part ++ behind) (.inr part :: met)

/-! ## What patterns match -/

variable {p q : Pattern} {before part behind : List Char} {test : Char → Bool}

theorem matches_char_iff :
    (char test).Matches before part behind ↔ ∃ c, part = [c] ∧ test c = true := by
  constructor
  · intro h
    cases h with
    | char passes => exact ⟨_, rfl, passes⟩
  · rintro ⟨c, rfl, passes⟩
    exact .char passes

theorem matches_seq_iff : (seq p q).Matches before part behind ↔
    ∃ a b, part = a ++ b ∧ p.Matches before a (b ++ behind) ∧ q.Matches (before ++ a) b behind := by
  constructor
  · intro h
    cases h with
    | seq first next => exact ⟨_, _, rfl, first, next⟩
  · rintro ⟨a, b, rfl, first, next⟩
    exact .seq first next

theorem matches_begins_iff : begins.Matches before part behind ↔ part = [] ∧ before = [] := by
  constructor
  · intro h
    cases h
    exact ⟨rfl, rfl⟩
  · rintro ⟨rfl, rfl⟩
    exact .begins

theorem matches_ends_iff : ends.Matches before part behind ↔ part = [] ∧ behind = [] := by
  constructor
  · intro h
    cases h
    exact ⟨rfl, rfl⟩
  · rintro ⟨rfl, rfl⟩
    exact .ends

theorem matches_either_iff : (either p q).Matches before part behind ↔
    p.Matches before part behind ∨ q.Matches before part behind := by
  constructor
  · intro h
    cases h with
    | first h => exact .inl h
    | second h => exact .inr h
  · rintro (h | h)
    · exact .first h
    · exact .second h

/-- Any number of characters are those that all pass the test. -/
theorem matches_many_char_iff :
    (many (char test)).Matches before part behind ↔ ∀ c ∈ part, test c = true := by
  constructor
  · intro h
    generalize pattern : many (char test) = p at h
    induction h with
    | none => nofun
    | more first others _ ih =>
        cases pattern
        obtain ⟨c, rfl, passes⟩ := matches_char_iff.mp first
        exact List.forall_mem_cons.mpr ⟨passes, ih rfl⟩
    | _ => cases pattern
  · intro all
    induction part generalizing before with
    | nil => exact .none
    | cons c rest ih =>
        obtain ⟨passes, later⟩ := List.forall_mem_cons.mp all
        exact .more (.char passes) (ih later)

theorem matches_text_iff {cs : List Char} : (text cs p).Matches before part behind ↔
    ∃ rest, part = cs ++ rest ∧ p.Matches (before ++ cs) rest behind := by
  induction cs generalizing before part with
  | nil => simp [text]
  | cons c cs ih =>
      have step : (text (c :: cs) p).Matches before part behind ↔ ∃ others,
          part = c :: others ∧ (text cs p).Matches (before ++ [c]) others behind := by
        refine matches_seq_iff.trans ⟨?_, ?_⟩
        · rintro ⟨a, b, rfl, first, next⟩
          obtain ⟨d, rfl, same⟩ := matches_char_iff.mp first
          cases eq_of_beq same
          exact ⟨b, rfl, next⟩
        · rintro ⟨others, rfl, next⟩
          exact ⟨[c], others, rfl, .char (beq_self_eq_true c), next⟩
      rw [step]
      simp only [ih, List.append_assoc, List.singleton_append]
      constructor
      · rintro ⟨others, rfl, rest, rfl, h⟩
        exact ⟨rest, rfl, h⟩
      · rintro ⟨rest, rfl, h⟩
        exact ⟨cs ++ rest, rfl, rest, rfl, h⟩

/-! ## Expressions -/

/-- The pattern of expressions matches these, wherever they stand. -/
theorem matches_expression_iff : expression.Matches before part behind ↔
    ∃ kind body, '\x7d' ∉ body ∧ part = (QueryPiece.expression kind body).chars := by
  simp only [expression, matches_seq_iff, matches_text_iff, matches_char_iff,
    matches_many_char_iff]
  constructor
  · rintro ⟨-, -, rfl, ⟨c, rfl, sigil⟩, -, rfl, body, -, rfl, plain, d, rfl, closes⟩
    cases eq_of_beq closes
    have closed : '\x7d' ∉ body := fun mem => absurd (plain _ mem) (by decide)
    rcases Bool.or_eq_true_iff.mp sigil with named | positional
    · cases eq_of_beq named
      exact ⟨.named, body, closed, rfl⟩
    · cases eq_of_beq positional
      exact ⟨.positional, body, closed, rfl⟩
  · rintro ⟨kind, body, closed, rfl⟩
    refine ⟨[kind.sigil], _, rfl, ⟨_, rfl, by cases kind <;> rfl⟩, _, rfl, body, _, rfl,
      fun c mem => ?_, _, rfl, rfl⟩
    exact bne_iff_ne.mpr fun same => closed (same ▸ mem)

/-- An expression begins where the pattern of expressions matches. -/
theorem beginsExpression_iff {cs : List Char} : BeginsExpression cs ↔
    ∃ part behind, cs = part ++ behind ∧ expression.Matches before part behind := by
  simp only [matches_expression_iff]
  constructor
  · rintro ⟨kind, body, rest, closed, rfl⟩
    exact ⟨_, rest, rfl, kind, body, closed, rfl⟩
  · rintro ⟨-, rest, rfl, kind, body, closed, rfl⟩
    exact ⟨kind, body, rest, closed, rfl⟩

end Pattern

/-- What is met in a text where a piece is. -/
def QueryPiece.met : QueryPiece → Char ⊕ List Char
  | plain c => .inl c
  | expression kind body => .inr (expression kind body).chars

namespace Pattern

variable {before : List Char}

/-- Leftmost pieces are met one after the other. -/
theorem successive_of_isLeftmost {pieces : List QueryPiece} (h : IsLeftmost pieces) :
    expression.Successive before (pieces.flatMap QueryPiece.chars) (pieces.map QueryPiece.met) := by
  induction pieces generalizing before with
  | nil => exact .done
  | cons piece rest ih =>
      cases piece with
      | plain c =>
          refine .passed (fun part behind split found => ?_) (ih h.tail)
          exact h.plain [] c rest rfl (beginsExpression_iff.mpr ⟨part, behind, split, found⟩)
      | expression kind body =>
          have closed := h.closed kind body (List.mem_cons_self ..)
          refine .taken (List.cons_ne_nil _ _) ?_ (ih h.tail)
          exact matches_expression_iff.mpr ⟨kind, body, closed, rfl⟩

/-- The successive matches of the pattern of expressions leave the pieces of the text, whatever
is before it.  In particular there is only one way to take them. -/
theorem successive_expression_iff {cs : List Char} {met : List (Char ⊕ List Char)} :
    expression.Successive before cs met ↔ met = (queryPieces 0 cs).map QueryPiece.met := by
  constructor
  · intro h
    induction h with
    | done => rw [queryPieces, List.map_nil]
    | passed nowhere _ ih =>
        have none : ¬ BeginsExpression _ := fun begun => by
          obtain ⟨part, behind, split, found⟩ := beginsExpression_iff.mp begun
          exact nowhere part behind split found
        rw [queryPieces_plain_cons none, List.map_cons, ih]
        rfl
    | taken _ here _ ih =>
        obtain ⟨kind, body, closed, rfl⟩ := matches_expression_iff.mp here
        rw [queryPieces_expression_append kind closed, List.map_cons, ih]
        rfl
  · rintro rfl
    have whole := @successive_of_isLeftmost before _ (isLeftmost_queryPieces 0 cs)
    rw [flatMap_chars_queryPieces, List.drop_zero] at whole
    exact whole

/-! ## Mentions -/

/-- The pattern of the mentions of a name matches these, wherever they stand. -/
theorem matches_mention_iff {name part behind : List Char} :
    (mention name).Matches before part behind ↔ ∃ front c back,
      part = front ++ c :: (name ++ back) ∧ isSigil c = true ∧
        ((∃ d, front = [d] ∧ Text.isWord d = false) ∨ front = [] ∧ before = []) ∧
        ((∃ d, back = [d] ∧ Text.isWord d = false) ∨ back = [] ∧ behind = []) := by
  simp only [mention, matches_seq_iff, matches_either_iff, matches_char_iff, matches_text_iff,
    matches_begins_iff, matches_ends_iff, Bool.not_eq_true']
  constructor
  · rintro ⟨front, -, rfl, opens, -, -, rfl, ⟨c, rfl, sigil⟩, back, rfl, closes⟩
    exact ⟨front, c, back, rfl, sigil, opens, closes⟩
  · rintro ⟨front, c, back, rfl, sigil, opens, closes⟩
    exact ⟨front, _, rfl, opens, [c], _, rfl, ⟨c, rfl, sigil⟩, back, rfl, closes⟩

/-- A mention is found where a sigil stands with the name behind it and no word character touches
the two. -/
theorem foundIn_mention_iff {name cs : List Char} : (mention name).FoundIn cs ↔
    ∃ earlier c later, cs = earlier ++ c :: (name ++ later) ∧ isSigil c = true ∧
      touchesWord earlier.getLast? = false ∧ touchesWord later.head? = false := by
  simp only [FoundIn, matches_mention_iff]
  constructor
  · rintro ⟨before, -, behind, rfl, front, c, back, rfl, sigil, opens, closes⟩
    refine ⟨before ++ front, c, back ++ behind, by simp, sigil, ?_, ?_⟩
    · rcases opens with ⟨d, rfl, plain⟩ | ⟨rfl, rfl⟩
      · rw [List.getLast?_concat]
        exact plain
      · rfl
    · rcases closes with ⟨d, rfl, plain⟩ | ⟨rfl, rfl⟩
      · exact plain
      · rfl
  · rintro ⟨earlier, c, later, rfl, sigil, opens, closes⟩
    obtain ⟨before, front, rfl, bounded⟩ : ∃ before front, earlier = before ++ front ∧
        ((∃ d, front = [d] ∧ Text.isWord d = false) ∨ front = [] ∧ before = []) := by
      rcases List.eq_nil_or_concat earlier with rfl | ⟨before, d, rfl⟩
      · exact ⟨[], [], rfl, .inr ⟨rfl, rfl⟩⟩
      · rw [List.concat_eq_append, List.getLast?_concat] at opens
        exact ⟨before, [d], List.concat_eq_append, .inl ⟨d, rfl, opens⟩⟩
    obtain ⟨back, behind, rfl, closed⟩ : ∃ back behind, later = back ++ behind ∧
        ((∃ d, back = [d] ∧ Text.isWord d = false) ∨ back = [] ∧ behind = []) := by
      cases later with
      | nil => exact ⟨[], [], rfl, .inr ⟨rfl, rfl⟩⟩
      | cons d behind => exact ⟨[d], behind, rfl, .inl ⟨d, rfl, closes⟩⟩
    exact ⟨before, _, behind, by simp, front, c, back, rfl, sigil, bounded, closed⟩

/-- A name begins a text and ends there as a word when no word character is behind it. -/
theorem beginsWith_iff {name rest : List Char} : beginsWith name rest = true ↔
    ∃ later, rest = name ++ later ∧ touchesWord later.head? = false := by
  rw [beginsWith, Bool.and_eq_true, List.isPrefixOf_iff_prefix, Bool.not_eq_true']
  constructor
  · rintro ⟨⟨later, rfl⟩, free⟩
    rw [List.drop_left] at free
    exact ⟨later, rfl, free⟩
  · rintro ⟨later, rfl, free⟩
    rw [List.drop_left]
    exact ⟨List.prefix_append .., free⟩

/-- A query mentions a name exactly when the pattern of its mentions is found. -/
theorem mentions_iff_foundIn {query name : String} :
    mentions query name = true ↔ (mention name.toList).FoundIn query.toList := by
  rw [foundIn_mention_iff, mentions_iff]
  constructor
  · rintro ⟨place, found⟩
    obtain ⟨c, here, -⟩ := found.sigil
    obtain ⟨earlier, rest, split, rfl⟩ : ∃ earlier rest,
        query.toList = earlier ++ c :: rest ∧ earlier.length = place := by
      obtain ⟨bound, rfl⟩ := List.getElem?_eq_some_iff.mp here
      refine ⟨query.toList.take place, query.toList.drop (place + 1), ?_, ?_⟩
      · rw [← List.drop_eq_getElem_cons bound, List.take_append_drop]
      · exact List.length_take_of_le (Nat.le_of_lt bound)
    rw [split, isMention_iff, beginsWith_iff] at found
    obtain ⟨⟨sigil, free⟩, later, rfl, ends⟩ := found
    exact ⟨earlier, c, later, split, sigil, free, ends⟩
  · rintro ⟨earlier, c, later, split, sigil, free, ends⟩
    refine ⟨earlier.length, ?_⟩
    rw [split]
    exact isMention_iff.mpr ⟨⟨sigil, free⟩, beginsWith_iff.mpr ⟨later, rfl, ends⟩⟩

end Pattern

end DataMapper
