import DataMapper.Binder
import DataMapper.Proofs.Template.Bytes

/-!
# Mentions and placeholders

A binder asks of its query whether it mentions a name (`IsMention`), and a template has a
placeholder where `IsPlaceholder` says so.  Both are a sigil with the name behind it, and
they differ in what may be around the two.

* A mention is no placeholder where it is hidden (`HiddenAt`): regions are not known to
  mentions, nor is the double colon of a cast.
* A placeholder is no mention where a word character touches it (`TouchedAt`): word
  characters beyond ASCII are not known to placeholders.

What a binder remembers of a name is whether its query mentions it, after any calls
(`Binder.Remembers`).  `Binder.isReferenced_run` puts the two together.
-/

namespace DataMapper

/-! ## Mentions -/

/-- Whether a text mentions a name at a place: a sigil is there with the name behind it,
and no word character is before the sigil or behind the name. -/
structure IsMention (text : List Char) (place : Nat) (name : String) : Prop where
  sigil : ∃ c, text[place]? = some c ∧ isSigil c = true
  free : ∀ earlier c, place = earlier + 1 → text[earlier]? = some c → Text.isWord c = false
  named : name.toList <+: text.drop (place + 1)
  ends : ∀ c, text[place + 1 + name.toList.length]? = some c → Text.isWord c = false

theorem touchesWord_eq_false_iff {c : Option Char} :
    touchesWord c = false ↔ ∀ d, c = some d → Text.isWord d = false := by
  rw [touchesWord, Option.any_eq_false]

/-- A mention at a character, told by what is before it and what is after it. -/
theorem isMention_iff {before rest : List Char} {c : Char} {name : String} :
    IsMention (before ++ c :: rest) before.length name ↔
      (isSigil c = true ∧ touchesWord before.getLast? = false) ∧
        beginsWith name.toList rest = true := by
  have here : (before ++ c :: rest)[before.length]? = some c := by simp
  have after : (before ++ c :: rest).drop (before.length + 1) = rest := by simp
  have behind : (before ++ c :: rest)[before.length + 1 + name.toList.length]?
      = (rest.drop name.toList.length).head? := by
    rw [← List.head?_drop, ← List.drop_drop, after]
  rw [beginsWith, Bool.and_eq_true, List.isPrefixOf_iff_prefix, Bool.not_eq_true']
  constructor
  · rintro ⟨⟨d, hd, sigil⟩, free, named, ends⟩
    rw [here] at hd
    cases hd
    rw [after] at named
    rw [behind] at ends
    exact ⟨⟨sigil, (forall_getElem?_iff before _).mp free⟩, named,
      touchesWord_eq_false_iff.mpr ends⟩
  · rintro ⟨⟨sigil, free⟩, named, ends⟩
    exact ⟨⟨c, here, sigil⟩, (forall_getElem?_iff before _).mpr free, by rw [after]; exact named,
      by rw [behind]; exact touchesWord_eq_false_iff.mp ends⟩

/-- The search from a character on finds the mentions from there on. -/
theorem mentionsFrom_iff {name : String} (before rest : List Char) :
    mentionsFrom name.toList before.getLast? rest = true ↔
      ∃ place, before.length ≤ place ∧ IsMention (before ++ rest) place name := by
  induction rest generalizing before with
  | nil =>
      refine ⟨nofun, ?_⟩
      rintro ⟨place, late, ⟨c, there, -⟩, -⟩
      rw [List.append_nil, List.getElem?_eq_none late] at there
      cases there
  | cons c rest ih =>
      have later := ih (before ++ [c])
      rw [List.getLast?_concat, List.length_append, List.length_singleton, List.append_assoc,
        List.singleton_append] at later
      rw [mentionsFrom, Bool.or_eq_true, later, Bool.and_eq_true, Bool.and_eq_true,
        Bool.not_eq_true', ← isMention_iff]
      constructor
      · rintro (here | ⟨place, late, found⟩)
        · exact ⟨_, Nat.le_refl _, here⟩
        · exact ⟨place, Nat.le_of_succ_le late, found⟩
      · rintro ⟨place, late, found⟩
        rcases Nat.eq_or_lt_of_le late with rfl | past
        · exact .inl found
        · exact .inr ⟨place, past, found⟩

theorem mentions_iff {query name : String} :
    mentions query name = true ↔ ∃ place, IsMention query.toList place name := by
  rw [mentions]
  refine (mentionsFrom_iff [] query.toList).trans (exists_congr fun place => ?_)
  exact and_iff_right (Nat.zero_le place)

/-! ## Mentions of identifiers -/

/-- Whether a name is an identifier of ASCII characters. -/
structure IsIdentifier (name : String) : Prop where
  begins : name.toList.head?.any Text.isAsciiWordStart = true
  word : name.toList.all Text.isAsciiWord = true

/-- Whether a place is in a region or behind a sigil. -/
def HiddenAt (text : List Char) (regions : List (Nat × Nat)) (place : Nat) : Prop :=
  (∃ region ∈ regions, region.1 ≤ place ∧ place < region.2) ∨
    ∃ earlier c, place = earlier + 1 ∧ text[earlier]? = some c ∧ isSigil c = true

/-- Whether a word character is before a place or behind a name that is behind the place. -/
def TouchedAt (text : List Char) (place : Nat) (name : String) : Prop :=
  (∃ earlier c, place = earlier + 1 ∧ text[earlier]? = some c ∧ Text.isWord c = true) ∨
    ∃ c, text[place + 1 + name.toList.length]? = some c ∧ Text.isWord c = true

/-- An ASCII word character is a word character. -/
theorem isWord_of_isAsciiWord {c : Char} (word : Text.isAsciiWord c = true) :
    Text.isWord c = true := by
  rw [Text.isWord, if_pos (toNat_of_word word)]
  exact word

theorem isAsciiWord_eq_false {c : Char} (none : Text.isWord c = false) :
    Text.isAsciiWord c = false := by
  rw [Bool.eq_false_iff] at none ⊢
  exact fun word => none (isWord_of_isAsciiWord word)

/-- Characters to take are all that are taken when they come first and the next one is not
one to take. -/
theorem eq_takeWhile_iff {p : Char → Bool} {cs rest : List Char} (all : ∀ c ∈ cs, p c = true) :
    cs = rest.takeWhile p ↔ cs <+: rest ∧ ∀ c, rest[cs.length]? = some c → p c = false := by
  constructor
  · rintro rfl
    refine ⟨List.takeWhile_prefix p, fun c next => ?_⟩
    have behind : (rest.takeWhile p ++ rest.dropWhile p)[(rest.takeWhile p).length]?
        = (rest.dropWhile p).head? := by
      rw [List.getElem?_append_right (Nat.le_refl _), Nat.sub_self, List.head?_eq_getElem?]
    have stops := List.head?_dropWhile_not p rest
    rw [List.takeWhile_append_dropWhile, next] at behind
    rw [← behind] at stops
    exact stops
  · rintro ⟨⟨after, rfl⟩, next⟩
    rw [List.getElem?_append_right (Nat.le_refl _), Nat.sub_self] at next
    rw [List.takeWhile_append_of_pos all]
    cases after with
    | nil => rw [List.takeWhile_nil, List.append_nil]
    | cons c after =>
        rw [List.takeWhile_cons_of_neg (by simp [next c rfl]), List.append_nil]

/-- A placeholder of an identifier is a sigil outside the regions that nothing blocks, with
the name behind it and then no ASCII word character. -/
theorem IsIdentifier.isPlaceholder_iff {name : String} (ident : IsIdentifier name)
    {text : List Char} {regions : List (Nat × Nat)} {place : Nat} :
    IsPlaceholder text regions place name ↔
      (∀ region ∈ regions, place < region.1 ∨ region.2 ≤ place) ∧
        (∃ c, text[place]? = some c ∧ isSigil c = true) ∧
        (∀ earlier c, place = earlier + 1 → text[earlier]? = some c →
          blocksPlaceholder c = false) ∧
        name.toList <+: text.drop (place + 1) ∧
        ∀ c, text[place + 1 + name.toList.length]? = some c → Text.isAsciiWord c = false := by
  have run : name.toList = (text.drop (place + 1)).takeWhile Text.isAsciiWord ↔ _ :=
    eq_takeWhile_iff (List.all_eq_true.mp ident.word)
  rw [List.getElem?_drop] at run
  constructor
  · rintro ⟨outside, sigil, free, -, taken⟩
    exact ⟨outside, sigil, free, run.mp taken⟩
  · rintro ⟨outside, sigil, free, named⟩
    refine ⟨outside, sigil, free, ?_, run.mpr named⟩
    obtain ⟨first, hfirst, begins⟩ := (Option.any_eq_true _ _).mp ident.begins
    obtain ⟨after, split⟩ := named.1
    refine ⟨first, ?_, begins⟩
    rw [← List.head?_drop, ← split, List.head?_append, hfirst, Option.some_or]

/-- A mention of an identifier is a placeholder unless it is hidden. -/
theorem IsMention.isPlaceholder_iff {name : String} (ident : IsIdentifier name)
    {text : List Char} {regions : List (Nat × Nat)} {place : Nat}
    (mention : IsMention text place name) :
    IsPlaceholder text regions place name ↔ ¬ HiddenAt text regions place := by
  rw [ident.isPlaceholder_iff]
  constructor
  · rintro ⟨outside, -, free, -⟩
      (⟨region, hregion, late, early⟩ | ⟨earlier, c, same, before, sigil⟩)
    · have := outside region hregion
      omega
    · have blocks := free earlier c same before
      rw [blocksPlaceholder_of_sigil sigil] at blocks
      cases blocks
  · intro seen
    refine ⟨fun region hregion => ?_, mention.sigil, fun earlier c same before => ?_, mention.named,
      fun c behind => isAsciiWord_eq_false (mention.ends c behind)⟩
    · refine Decidable.byContradiction fun inside => seen (.inl ⟨region, hregion, ?_⟩)
      omega
    · rw [blocksPlaceholder, isAsciiWord_eq_false (mention.free earlier c same before),
        Bool.false_or, Bool.eq_false_iff]
      exact fun sigil => seen (.inr ⟨earlier, c, same, before, sigil⟩)

/-- A placeholder of an identifier is a mention unless it is touched. -/
theorem IsPlaceholder.isMention_iff {name : String} (ident : IsIdentifier name)
    {text : List Char} {regions : List (Nat × Nat)} {place : Nat}
    (placed : IsPlaceholder text regions place name) :
    IsMention text place name ↔ ¬ TouchedAt text place name := by
  obtain ⟨-, sigil, -, named, -⟩ := ident.isPlaceholder_iff.mp placed
  constructor
  · rintro ⟨-, free, -, ends⟩ (⟨earlier, c, same, before, word⟩ | ⟨c, behind, word⟩)
    · exact Bool.eq_false_iff.mp (free earlier c same before) word
    · exact Bool.eq_false_iff.mp (ends c behind) word
  · intro alone
    refine ⟨sigil, fun earlier c same before => ?_, named, fun c behind => ?_⟩
    · exact Bool.eq_false_iff.mpr fun word => alone (.inl ⟨earlier, c, same, before, word⟩)
    · exact Bool.eq_false_iff.mpr fun word => alone (.inr ⟨c, behind, word⟩)

/-! ## What a binder remembers -/

/-- A parameter is bound under a name if it has the name and the name is referenced. -/
theorem Binder.eq_named_of_slotOf {b : Binder} {p : Parameter} {name : String}
    (slot : (b.slotOf p).1 = .named name) :
    p.name = some name ∧ (b.isReferenced name).1 = true := by
  have otherwise : (if b.query.hasBindings then ParameterSlot.skipped else .positional)
      ≠ .named name := by
    split <;> exact ParameterSlot.noConfusion
  cases hname : p.name with
  | none =>
      simp only [slotOf, hname] at slot
      exact absurd slot otherwise
  | some other =>
      simp only [slotOf, hname] at slot
      split at slot
      next found =>
        cases slot
        exact ⟨rfl, found⟩
      next => exact absurd slot otherwise

/-- Whether a binder is one of a query, and what it knows of names is whether the query
mentions them. -/
structure Binder.Remembers (b : Binder) (query : ExpressionQuery) : Prop where
  query_eq : b.query = query
  known : ∀ name found, b.known.lookup name = some found → found = mentions query.query name

namespace Binder.Remembers

variable {b : Binder} {query : ExpressionQuery}

/-- Whether a name is referenced is looked up or found out with the same answer. -/
theorem isReferenced_fst (h : b.Remembers query) (name : String) :
    (b.isReferenced name).1 = mentions query.query name := by
  rw [isReferenced]
  cases found : b.known.lookup name with
  | some answer => exact h.known name answer found
  | none => rw [h.query_eq]

theorem isReferenced_snd (h : b.Remembers query) (name : String) :
    (b.isReferenced name).2.Remembers query := by
  rw [isReferenced]
  cases found : b.known.lookup name with
  | some answer => exact h
  | none =>
      refine ⟨h.query_eq, fun other answer looked => ?_⟩
      rw [h.query_eq, List.lookup_cons] at looked
      split at looked
      next same =>
        cases looked
        rw [eq_of_beq same]
      next => exact h.known other answer looked

theorem slotOf_snd (h : b.Remembers query) (p : Parameter) : (b.slotOf p).2.Remembers query := by
  rw [slotOf]
  cases p.name with
  | none => exact h
  | some name => exact h.isReferenced_snd name

end Binder.Remembers

/-! ## Runs of a binder -/

/-- Whether a run leaves a binder that remembers, and each call under a name is for a
parameter of the name that the query mentions. -/
structure BinderRun.Honest (run : BinderRun) (query : ExpressionQuery)
    (parameters : List Parameter) : Prop where
  remembers : run.binder.Remembers query
  named : ∀ call ∈ run.calls, ∀ name, call.id = .name name →
    (∃ p ∈ parameters, p.name = some name) ∧ mentions query.query name = true

namespace BinderRun.Honest

variable {run : BinderRun} {query : ExpressionQuery} {p : Parameter} {rest : List Parameter}

/-- A parameter may be passed over. -/
theorem cons (h : run.Honest query rest) : run.Honest query (p :: rest) := by
  refine ⟨h.remembers, fun call hcall name id => ?_⟩
  obtain ⟨⟨q, hq, hname⟩, mentioned⟩ := h.named call hcall name id
  exact ⟨⟨q, List.mem_cons_of_mem p hq, hname⟩, mentioned⟩

/-- The call for a parameter goes before those for the others. -/
theorem after (h : run.Honest query rest) {call : Binding}
    (named : ∀ name, call.id = .name name →
      p.name = some name ∧ mentions query.query name = true) :
    (run.after [call]).Honest query (p :: rest) := by
  refine ⟨h.remembers, List.forall_mem_cons.mpr ⟨fun name id => ?_, h.cons.named⟩⟩
  obtain ⟨hname, mentioned⟩ := named name id
  exact ⟨⟨p, List.mem_cons_self .., hname⟩, mentioned⟩

end BinderRun.Honest

theorem Settable.id_bindTo (s : Settable) (id : BindId) : (s.bindTo id).id = id := by
  rw [bindTo]
  cases s.value <;> rfl

namespace Binder

/-- A parameter is passed over, or its argument is not written and nothing more is bound, or
it is bound and the others after it.  The address is a name only if its slot has the name. -/
theorem bindParameters_cons (arguments : Arguments) (b : Binder) (position : Nat) (p : Parameter)
    (rest : List Parameter) :
    let next := (b.slotOf p).2
    let run := bindParameters arguments b position (p :: rest)
    run = bindParameters arguments next position rest ∨
      (∃ e, run = ⟨.error e, [], next⟩) ∨
      ∃ (value : Settable) (id : BindId) (later : Nat),
        run = (bindParameters arguments next later rest).after [value.bindTo id] ∧
          ∀ name, id = .name name → (b.slotOf p).1 = .named name := by
  intro next run
  have unfolded : run = bindParameters arguments b position (p :: rest) := rfl
  rw [bindParameters] at unfolded
  cases slot : (b.slotOf p).1 with
  | skipped =>
      simp only [slot] at unfolded
      exact .inl unfolded
  | positional =>
      simp only [slot] at unfolded
      split at unfolded
      next e _ => exact .inr (.inl ⟨e, unfolded⟩)
      next value _ =>
        split at unfolded
        next => exact .inl unfolded
        next => exact .inr (.inr ⟨value, _, _, unfolded, fun _ same => BindId.noConfusion same⟩)
  | named name =>
      simp only [slot] at unfolded
      split at unfolded
      next e _ => exact .inr (.inl ⟨e, unfolded⟩)
      next value _ =>
        split at unfolded
        next => exact .inl unfolded
        next =>
          refine .inr (.inr ⟨value, _, _, unfolded, fun other same => ?_⟩)
          cases same
          rfl

/-- Binding parameters is honest, whatever is bound and wherever it stops. -/
theorem honest_bindParameters {b : Binder} {query : ExpressionQuery} (h : b.Remembers query)
    (arguments : Arguments) (position : Nat) (parameters : List Parameter) :
    (bindParameters arguments b position parameters).Honest query parameters := by
  induction parameters generalizing b position with
  | nil => exact ⟨h, List.forall_mem_nil _⟩
  | cons p rest ih =>
      have remembers := h.slotOf_snd p
      rcases bindParameters_cons arguments b position p rest with
        skipped | ⟨e, stopped⟩ | ⟨value, id, later, bound, slot⟩
      · rw [skipped]
        exact (ih remembers position).cons
      · rw [stopped]
        exact ⟨remembers, List.forall_mem_nil _⟩
      · rw [bound]
        refine (ih remembers later).after fun name same => ?_
        rw [Settable.id_bindTo] at same
        obtain ⟨hname, referenced⟩ := eq_named_of_slotOf (slot name same)
        exact ⟨hname, h.isReferenced_fst name ▸ referenced⟩

/-- Expressions are bound under their names only. -/
theorem mem_bindExpressions {b : Binder} {evaluate : Evaluator} {xs : List ExpressionBinding}
    {call : Binding} (h : call ∈ (b.bindExpressions evaluate xs).2) :
    ∃ x ∈ xs, call.id = .name x.name := by
  induction xs with
  | nil => cases h
  | cons x rest ih =>
      rw [bindExpressions] at h
      split at h
      next => cases h
      next value _ =>
        rcases List.mem_cons.mp h with rfl | later
        · exact ⟨x, List.mem_cons_self .., value.id_bindTo _⟩
        · obtain ⟨y, hy, id⟩ := ih later
          exact ⟨y, List.mem_cons_of_mem x hy, id⟩

/-- Binding leaves a binder that remembers.  A call under a name is for an expression with
the name, or for a parameter of the name that the query mentions. -/
theorem bind_spec {b : Binder} {query : ExpressionQuery} (h : b.Remembers query)
    (arguments : Arguments) (evaluate : Evaluator) :
    (b.bind arguments evaluate).binder.Remembers query ∧
      ∀ call ∈ (b.bind arguments evaluate).calls, ∀ name, call.id = .name name →
        (∃ x ∈ query.bindings, x.name = name) ∨
          (∃ p ∈ arguments.parameters, p.name = some name) ∧
            mentions query.query name = true := by
  have expressions : ∀ call ∈ (b.bindExpressions evaluate b.query.bindings).2, ∀ name,
      call.id = .name name → ∃ x ∈ query.bindings, x.name = name := by
    intro call hcall name id
    obtain ⟨x, hx, hid⟩ := mem_bindExpressions hcall
    cases hid.symm.trans id
    exact ⟨x, h.query_eq ▸ hx, rfl⟩
  have honest := honest_bindParameters h arguments 0 arguments.parameters
  rw [bind]
  split
  next e calls run =>
    rw [run] at expressions
    exact ⟨h, fun call hcall name id => .inl (expressions call hcall name id)⟩
  next calls run =>
    rw [run] at expressions
    refine ⟨honest.remembers, fun call hcall name id => ?_⟩
    rcases List.mem_append.mp hcall with early | late
    · exact .inl (expressions call early name id)
    · exact .inr (honest.named call late name id)

end Binder

/-- A call on a binder. -/
inductive BinderCall where
  /-- Asks whether a name is referenced. -/
  | reference (name : String)
  | bind (arguments : Arguments) (evaluate : Evaluator)

namespace Binder

/-- The binder after a call. -/
def step (b : Binder) : BinderCall → Binder
  | .reference name => (b.isReferenced name).2
  | .bind arguments evaluate => (b.bind arguments evaluate).binder

/-- The binder after some calls. -/
def run (b : Binder) (calls : List BinderCall) : Binder := calls.foldl step b

theorem remembers_step {b : Binder} {query : ExpressionQuery} (h : b.Remembers query)
    (call : BinderCall) : (b.step call).Remembers query := by
  cases call with
  | reference name => exact h.isReferenced_snd name
  | bind arguments evaluate => exact (bind_spec h arguments evaluate).1

theorem remembers_run {b : Binder} {query : ExpressionQuery} (h : b.Remembers query)
    (calls : List BinderCall) : (b.run calls).Remembers query := by
  induction calls generalizing b with
  | nil => exact h
  | cons call rest ih => exact ih (remembers_step h call)

/-- A binder that was asked nothing has nothing to remember. -/
theorem remembers_fresh (query : ExpressionQuery) (converter : EntityConverter) :
    Remembers { query, converter } query :=
  ⟨rfl, nofun⟩

/-- What is one thing and never another has what keeps it from being the other. -/
theorem exists_iff_of_apart {p q r : Nat → Prop} (differs : ∀ n, p n → (q n ↔ ¬ r n))
    (apart : ¬ ∃ n, p n ∧ q n) : (∃ n, p n) ↔ ∃ n, p n ∧ r n := by
  refine exists_congr fun n => ⟨fun hp => ⟨hp, Classical.not_not.mp fun none => ?_⟩, And.left⟩
  exact apart ⟨n, hp, (differs n hp).mpr none⟩

/-- After any calls, a name is referenced if the query mentions it, and the name of a
placeholder if the query has a placeholder of it.  The two agree at a place unless it is
hidden or touched.  So they agree about the name if the query has a place that is both, or
else if it has a hidden mention exactly when it has a touched placeholder.  A call under the
name is for an expression, or for a parameter whose name the query mentions. -/
theorem isReferenced_run (query : ExpressionQuery) (converter : EntityConverter)
    (calls : List BinderCall) {name : String} (ident : IsIdentifier name) :
    let b := run { query, converter } calls
    let text := query.query.toList
    ∃ regions, (∀ others, OpaqueFrom text 0 others ↔ others = regions) ∧
      ((b.isReferenced name).1 = true ↔ ∃ place, IsMention text place name) ∧
      (name ∈ (Template.parse query.query).names ↔
        ∃ place, IsPlaceholder text regions place name) ∧
      (∀ place, IsMention text place name →
        (IsPlaceholder text regions place name ↔ ¬ HiddenAt text regions place)) ∧
      (∀ place, IsPlaceholder text regions place name →
        (IsMention text place name ↔ ¬ TouchedAt text place name)) ∧
      (((b.isReferenced name).1 = true ↔ name ∈ (Template.parse query.query).names) ↔
        (∃ place, IsMention text place name ∧ IsPlaceholder text regions place name) ∨
          ((∃ place, IsMention text place name ∧ HiddenAt text regions place) ↔
            ∃ place, IsPlaceholder text regions place name ∧ TouchedAt text place name)) ∧
      ∀ arguments evaluate, ∀ call ∈ (b.bind arguments evaluate).calls, call.id = .name name →
        (∃ x ∈ query.bindings, x.name = name) ∨
          (∃ p ∈ arguments.parameters, p.name = some name) ∧
            ∃ place, IsMention text place name := by
  intro b text
  obtain ⟨regions, opaqueFrom⟩ := exists_opaqueFrom text
  have remembers := remembers_run (remembers_fresh query converter) calls
  have referenced : (b.isReferenced name).1 = true ↔ ∃ place, IsMention text place name := by
    rw [remembers.isReferenced_fst, mentions_iff]
  have parameter : name ∈ (Template.parse query.query).names ↔
      ∃ place, IsPlaceholder text regions place name :=
    Template.mem_names_iff opaqueFrom
  have hidden (place : Nat) (h : IsMention text place name) :
      IsPlaceholder text regions place name ↔ ¬ HiddenAt text regions place :=
    h.isPlaceholder_iff ident
  have touched (place : Nat) (h : IsPlaceholder text regions place name) :
      IsMention text place name ↔ ¬ TouchedAt text place name :=
    h.isMention_iff ident
  refine ⟨regions, fun others => ⟨fun h => h.unique opaqueFrom, fun h => h ▸ opaqueFrom⟩,
    referenced, parameter, hidden, touched, ?_, ?_⟩
  · rw [referenced, parameter]
    by_cases shared : ∃ place, IsMention text place name ∧ IsPlaceholder text regions place name
    · obtain ⟨place, mention, placed⟩ := shared
      exact iff_of_true (iff_of_true ⟨place, mention⟩ ⟨place, placed⟩)
        (.inl ⟨place, mention, placed⟩)
    · have apart : ¬ ∃ place, IsPlaceholder text regions place name ∧ IsMention text place name :=
        fun ⟨place, placed, mention⟩ => shared ⟨place, mention, placed⟩
      rw [or_iff_right shared, exists_iff_of_apart hidden shared, exists_iff_of_apart touched apart]
  · intro arguments evaluate call hcall id
    rw [← mentions_iff]
    exact (bind_spec remembers arguments evaluate).2 call hcall name id

/-- A name that a query references beside quoted text is the name of a placeholder, asked
for the first time or again. -/
theorem isReferenced_run_quoted :
    IsIdentifier "id" ∧
      ∃ regions, OpaqueFrom "SELECT :id, ':x' FROM t".toList 0 regions ∧
        (∃ place, IsMention "SELECT :id, ':x' FROM t".toList place "id") ∧
        ∃ place, IsPlaceholder "SELECT :id, ':x' FROM t".toList regions place "id" := by
  have ident : IsIdentifier "id" := ⟨by decide, by decide⟩
  obtain ⟨regions, only, referenced, parameter, -⟩ :=
    isReferenced_run ⟨"SELECT :id, ':x' FROM t", []⟩ ⟨Dialect.postgres.conversions [], .postgres⟩
      [.reference "x", .reference "id"] ident
  exact ⟨ident, regions, (only regions).mpr rfl, referenced.mp (by decide +kernel),
    parameter.mp (by decide +kernel)⟩

/-- The type of a cast is referenced, and it is the name of no placeholder. -/
theorem isReferenced_cast :
    let query := ExpressionQuery.create "SELECT a::date FROM t WHERE b = $1"
    let b := run ⟨query, ⟨Dialect.postgres.conversions [], .postgres⟩, []⟩ []
    IsIdentifier "date" ∧
      ¬ ((b.isReferenced "date").1 = true ↔ "date" ∈ (Template.parse query.query).names) :=
  ⟨⟨by decide, by decide⟩, by decide +kernel⟩

end Binder

end DataMapper
