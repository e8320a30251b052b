import DataMapper.Proofs.Binder
import Mathlib.Data.List.Forall2

/-!
# The calls of a binder

A binder goes over items, first the expressions of its query and then the declared
parameters (`Binder.items`).  An item is handled, which makes one call or none
(`Binder.Handles`), or it is refused with an error (`Binder.Refuses`).  Both are said of
the query and the arguments, not of what the binder remembers.

Binding handles the items in order and stops at the first that is refused
(`Binder.covers_bind`).  It takes nothing back, so the calls of a run that fails are those
of the items before the refused one (`Binder.calls_of_bind_eq_error`).  The calls of a run
that succeeds are those of all items, the positions among them count from zero, and calls
made on the binder before change nothing (`Binder.calls_of_bind_eq_ok`).
-/

namespace DataMapper

/-- What a binder binds one after the other. -/
inductive BinderItem where
  | expression (x : ExpressionBinding)
  | parameter (p : Parameter)

/-- The position a call is made under, if it is no name. -/
def Binding.position? (call : Binding) : Option Nat :=
  match call.id with
  | .index position => some position
  | .name _ => none

/-- The positions calls are made under, in order. -/
def positionsOf (calls : List Binding) : List Nat := calls.filterMap Binding.position?

theorem Settable.position?_bindTo_name (s : Settable) (name : String) :
    (s.bindTo (.name name)).position? = none := by
  rw [Binding.position?, s.id_bindTo]

theorem Settable.position?_bindTo_index (s : Settable) (position : Nat) :
    (s.bindTo (.index position)).position? = some position := by
  rw [Binding.position?, s.id_bindTo]

/-- Whether a parameter has a name that a query mentions. -/
def Parameter.MentionedIn (p : Parameter) (query : ExpressionQuery) : Prop :=
  ∃ name, p.name = some name ∧ mentions query.query name = true

/-- Whether an argument is bound with a value: there is one, or NULLs are bound. -/
def Arguments.Admits (a : Arguments) (value : Settable) : Prop :=
  value.isEmpty = true → a.bindNulls = true

theorem Arguments.admits_iff {a : Arguments} {value : Settable} :
    a.Admits value ↔ ¬ (value.isEmpty && !a.bindNulls) = true := by
  rw [Admits, Bool.and_eq_true, Bool.not_eq_true', not_and, Bool.not_eq_false]

namespace Binder

/-! ## Items -/

section Items

variable (b : Binder) (arguments : Arguments) (evaluate : Evaluator)

def items : List BinderItem :=
  b.query.bindings.map .expression ++ arguments.parameters.map .parameter

/-- The calls for an item that is handled.

* An expression is bound under its name, whatever its value.
* A parameter whose name is mentioned is bound under the name.
* Another parameter is passed over when the query has expressions, and otherwise it is
  bound under some position.
* An argument that is not admitted is left out. -/
inductive Handles : BinderItem → List Binding → Prop where
  | expression {x : ExpressionBinding} {value : Settable}
      (evaluated : (evaluate x.expression).bind b.converter.bindValue = .ok value) :
      Handles (.expression x) [value.bindTo (.name x.name)]
  | named {p : Parameter} {name : String} {value : Settable} (has : p.name = some name)
      (mentioned : mentions b.query.query name = true)
      (bound : b.converter.bindValue (arguments.argument p) = .ok value)
      (admitted : arguments.Admits value) :
      Handles (.parameter p) [value.bindTo (.name name)]
  | positional {p : Parameter} {value : Settable} (position : Nat)
      (unmentioned : ¬ p.MentionedIn b.query) (none : b.query.hasBindings = false)
      (bound : b.converter.bindValue (arguments.argument p) = .ok value)
      (admitted : arguments.Admits value) :
      Handles (.parameter p) [value.bindTo (.index position)]
  | skipped {p : Parameter} (unmentioned : ¬ p.MentionedIn b.query)
      (some : b.query.hasBindings = true) : Handles (.parameter p) []
  | omitted {p : Parameter} {value : Settable}
      (asked : p.MentionedIn b.query ∨ b.query.hasBindings = false)
      (bound : b.converter.bindValue (arguments.argument p) = .ok value)
      (refused : ¬ arguments.Admits value) : Handles (.parameter p) []

/-- The error with which an item is refused: its value cannot be had.  The argument of a
parameter that is passed over is not looked at. -/
inductive Refuses (e : Error) : BinderItem → Prop where
  | expression {x : ExpressionBinding}
      (failed : (evaluate x.expression).bind b.converter.bindValue = .error e) :
      Refuses e (.expression x)
  | parameter {p : Parameter} (asked : p.MentionedIn b.query ∨ b.query.hasBindings = false)
      (failed : b.converter.bindValue (arguments.argument p) = .error e) :
      Refuses e (.parameter p)

/-- The calls for items in order, up to the first that is refused. -/
inductive Binds : List BinderItem → List (List Binding) → Except Error Unit → Prop where
  | nil : Binds [] [] (.ok ())
  | refused {item : BinderItem} {e : Error} (rest : List BinderItem)
      (here : b.Refuses arguments evaluate e item) : Binds (item :: rest) [] (.error e)
  | handled {item : BinderItem} {piece : List Binding} {rest : List BinderItem}
      {pieces : List (List Binding)} {outcome : Except Error Unit}
      (here : b.Handles arguments evaluate item piece) (later : Binds rest pieces outcome) :
      Binds (item :: rest) (piece :: pieces) outcome

end Items

variable {b : Binder} {arguments : Arguments} {evaluate : Evaluator}

/-- An expression is never without a call, and a parameter is not both bound and left out. -/
theorem Handles.eq_nil {item : BinderItem} {piece : List Binding}
    (h : b.Handles arguments evaluate item piece) (none : b.Handles arguments evaluate item []) :
    piece = [] := by
  cases none with
  | skipped unmentioned some =>
      cases h with
      | named has mentioned _ _ => exact absurd ⟨_, has, mentioned⟩ unmentioned
      | positional _ _ none _ _ => rw [some] at none; cases none
      | skipped => rfl
      | omitted => rfl
  | omitted _ bound refused =>
      cases h with
      | named _ _ again admitted =>
          cases bound.symm.trans again
          exact absurd admitted refused
      | positional _ _ _ again admitted =>
          cases bound.symm.trans again
          exact absurd admitted refused
      | skipped => rfl
      | omitted => rfl

/-- No call is made under a position when the query has expressions. -/
theorem Handles.position?_eq_none {item : BinderItem} {piece : List Binding}
    (h : b.Handles arguments evaluate item piece) (some : b.query.hasBindings = true) :
    ∀ call ∈ piece, call.position? = none := by
  cases h with
  | expression _ => exact List.forall_mem_singleton.mpr (Settable.position?_bindTo_name ..)
  | named _ _ _ _ => exact List.forall_mem_singleton.mpr (Settable.position?_bindTo_name ..)
  | positional _ _ none _ _ => rw [some] at none; cases none
  | skipped => exact List.forall_mem_nil _
  | omitted => exact List.forall_mem_nil _

/-- All items are handled when nothing is refused. -/
theorem Binds.forall₂_of_ok {items : List BinderItem} {pieces : List (List Binding)}
    {outcome : Except Error Unit} (h : b.Binds arguments evaluate items pieces outcome)
    (succeeds : outcome = .ok ()) :
    List.Forall₂ (b.Handles arguments evaluate) items pieces := by
  induction h with
  | nil => exact .nil
  | refused => cases succeeds
  | handled here _ ih => exact .cons here (ih succeeds)

/-- The items before a refused one are handled. -/
theorem Binds.exists_of_error {items : List BinderItem} {pieces : List (List Binding)}
    {outcome : Except Error Unit} {e : Error}
    (h : b.Binds arguments evaluate items pieces outcome) (fails : outcome = .error e) :
    ∃ done item rest, items = done ++ item :: rest ∧
      List.Forall₂ (b.Handles arguments evaluate) done pieces ∧
      b.Refuses arguments evaluate e item := by
  induction h with
  | nil => cases fails
  | @refused item _ rest here =>
      cases fails
      exact ⟨[], item, rest, rfl, .nil, here⟩
  | @handled first _ _ _ _ here _ ih =>
      obtain ⟨done, item, rest, rfl, handled, refused⟩ := ih fails
      exact ⟨first :: done, item, rest, rfl, .cons here handled, refused⟩

/-! ## Runs -/

/-- Whether calls are those for items up to the first that is refused, the positions among
them counting from one on. -/
structure Covers (b : Binder) (arguments : Arguments) (evaluate : Evaluator) (position : Nat)
    (items : List BinderItem) (outcome : Except Error Unit) (calls : List Binding) : Prop where
  binds : ∃ pieces, calls = pieces.flatten ∧ b.Binds arguments evaluate items pieces outcome
  positions : ∃ count, positionsOf calls = List.range' position count

namespace Covers

variable {position : Nat} {item : BinderItem} {rest : List BinderItem}
  {outcome : Except Error Unit} {calls : List Binding}

theorem nil : b.Covers arguments evaluate position [] (.ok ()) [] :=
  ⟨⟨[], rfl, .nil⟩, 0, rfl⟩

theorem refused {e : Error} (here : b.Refuses arguments evaluate e item) :
    b.Covers arguments evaluate position (item :: rest) (.error e) [] :=
  ⟨⟨[], rfl, .refused rest here⟩, 0, rfl⟩

/-- An item may be handled without a call. -/
theorem silent (here : b.Handles arguments evaluate item [])
    (later : b.Covers arguments evaluate position rest outcome calls) :
    b.Covers arguments evaluate position (item :: rest) outcome calls := by
  obtain ⟨⟨pieces, rfl, binds⟩, positions⟩ := later
  exact ⟨⟨[] :: pieces, rfl, .handled here binds⟩, positions⟩

/-- A call under a name takes no position. -/
theorem named {value : Settable} {name : String}
    (here : b.Handles arguments evaluate item [value.bindTo (.name name)])
    (later : b.Covers arguments evaluate position rest outcome calls) :
    b.Covers arguments evaluate position (item :: rest) outcome
      (value.bindTo (.name name) :: calls) := by
  obtain ⟨⟨pieces, rfl, binds⟩, count, positions⟩ := later
  refine ⟨⟨_ :: pieces, rfl, .handled here binds⟩, count, ?_⟩
  rw [positionsOf, List.filterMap_cons_none (value.position?_bindTo_name name)]
  exact positions

/-- A call under a position takes it. -/
theorem positional {value : Settable}
    (here : b.Handles arguments evaluate item [value.bindTo (.index position)])
    (later : b.Covers arguments evaluate (position + 1) rest outcome calls) :
    b.Covers arguments evaluate position (item :: rest) outcome
      (value.bindTo (.index position) :: calls) := by
  obtain ⟨⟨pieces, rfl, binds⟩, count, positions⟩ := later
  refine ⟨⟨_ :: pieces, rfl, .handled here binds⟩, count + 1, ?_⟩
  rw [positionsOf, List.filterMap_cons_some (value.position?_bindTo_index position),
    List.range'_succ]
  exact congrArg (position :: ·) positions

end Covers

/-- How a parameter is bound is told from the query. -/
theorem Remembers.slotOf_cases {query : ExpressionQuery} (h : b.Remembers query) (p : Parameter) :
    (∃ name, p.name = some name ∧ mentions query.query name = true ∧
        (b.slotOf p).1 = .named name) ∨
      ¬ p.MentionedIn query ∧
        (b.slotOf p).1 = if query.hasBindings then .skipped else .positional := by
  cases hname : p.name with
  | none =>
      refine .inr ⟨?_, ?_⟩
      · rintro ⟨name, has, -⟩
        rw [hname] at has
        cases has
      · rw [slotOf, h.query_eq, hname]
  | some name =>
      have answer := h.isReferenced_fst name
      cases mentioned : mentions query.query name with
      | true =>
          refine .inl ⟨name, rfl, mentioned, ?_⟩
          rw [slotOf, hname]
          simp only [answer, mentioned, if_true]
      | false =>
          refine .inr ⟨?_, ?_⟩
          · rintro ⟨other, has, found⟩
            rw [hname] at has
            cases has
            rw [mentioned] at found
            cases found
          · rw [slotOf, hname, h.query_eq]
            simp only [answer, mentioned, Bool.false_eq_true, if_false]

theorem converter_isReferenced (b : Binder) (name : String) :
    (b.isReferenced name).2.converter = b.converter := by
  rw [isReferenced]
  cases b.known.lookup name <;> rfl

theorem converter_slotOf (b : Binder) (p : Parameter) : (b.slotOf p).2.converter = b.converter := by
  rw [slotOf]
  cases p.name with
  | none => rfl
  | some name => exact b.converter_isReferenced name

/-- An argument bound under an identifier when it is admitted, and the parameters after it.
The next position is `next` when it is bound and `position` when it is left out. -/
def bindArgument (arguments : Arguments) (b : Binder) (p : Parameter) (rest : List Parameter)
    (id : BindId) (position next : Nat) : BinderRun :=
  match b.converter.bindValue (arguments.argument p) with
  | .error e => ⟨.error e, [], b⟩
  | .ok value =>
      if value.isEmpty && !arguments.bindNulls then bindParameters arguments b position rest
      else (bindParameters arguments b next rest).after [value.bindTo id]

theorem bindParameters_eq_bindArgument (arguments : Arguments) (b : Binder) (position : Nat)
    (p : Parameter) (rest : List Parameter) :
    bindParameters arguments b position (p :: rest) =
      match (b.slotOf p).1 with
      | .named name => bindArgument arguments (b.slotOf p).2 p rest (.name name) position position
      | .positional =>
          bindArgument arguments (b.slotOf p).2 p rest (.index position) position (position + 1)
      | .skipped => bindParameters arguments (b.slotOf p).2 position rest := by
  rw [bindParameters]
  rfl

/-- An argument that is asked for is refused, left out or bound. -/
theorem covers_bindArgument {other : Binder} (same : other.converter = b.converter)
    {p : Parameter} (asked : p.MentionedIn b.query ∨ b.query.hasBindings = false)
    {rest : List Parameter} {id : BindId} {position next : Nat}
    (later : b.Covers arguments evaluate position (rest.map .parameter)
      (bindParameters arguments other position rest).outcome
      (bindParameters arguments other position rest).calls)
    (taken : ∀ value, b.converter.bindValue (arguments.argument p) = .ok value →
      arguments.Admits value →
      b.Covers arguments evaluate position (.parameter p :: rest.map .parameter)
        (bindParameters arguments other next rest).outcome
        (value.bindTo id :: (bindParameters arguments other next rest).calls)) :
    let run := bindArgument arguments other p rest id position next
    b.Covers arguments evaluate position (.parameter p :: rest.map .parameter)
      run.outcome run.calls := by
  intro run
  simp only [run, bindArgument, same]
  split
  next e failed => exact .refused (.parameter asked failed)
  next value bound =>
    split
    next absent =>
      refine later.silent (.omitted asked bound fun admitted => ?_)
      exact Arguments.admits_iff.mp admitted absent
    next present => exact taken value bound (Arguments.admits_iff.mpr present)

/-- Binding parameters covers them, whatever the binder remembers beside its query. -/
theorem covers_bindParameters {other : Binder} (remembers : other.Remembers b.query)
    (same : other.converter = b.converter) (position : Nat) (parameters : List Parameter) :
    let run := bindParameters arguments other position parameters
    b.Covers arguments evaluate position (parameters.map .parameter) run.outcome run.calls := by
  -- `other` is what `b` has become, each parameter adding to what it remembers
  induction parameters generalizing other position with
  | nil => exact .nil
  | cons p rest ih =>
      have converter : (other.slotOf p).2.converter = b.converter :=
        (other.converter_slotOf p).trans same
      have later := fun position => ih (remembers.slotOf_snd p) converter position
      rw [List.map_cons, bindParameters_eq_bindArgument]
      rcases remembers.slotOf_cases p with ⟨name, has, mentioned, slot⟩ | ⟨unmentioned, slot⟩
      · rw [slot]
        refine covers_bindArgument converter (.inl ⟨name, has, mentioned⟩) (later position) ?_
        intro value bound admitted
        exact (later position).named (.named has mentioned bound admitted)
      · cases bindings : b.query.hasBindings with
        | true =>
            rw [slot, bindings, if_pos rfl]
            exact (later position).silent (.skipped unmentioned bindings)
        | false =>
            rw [slot, bindings, if_neg Bool.false_ne_true]
            refine covers_bindArgument converter (.inr bindings) (later position) ?_
            intro value bound admitted
            exact (later (position + 1)).positional
              (.positional position unmentioned bindings bound admitted)

/-- Expressions that are all bound come before what covers the items after them. -/
theorem covers_of_bindExpressions_ok {other : Binder} (same : other.converter = b.converter)
    {position : Nat} {rest : List BinderItem} {outcome : Except Error Unit}
    {calls : List Binding} (later : b.Covers arguments evaluate position rest outcome calls)
    {xs : List ExpressionBinding} {first : List Binding}
    (h : other.bindExpressions evaluate xs = (.ok (), first)) :
    b.Covers arguments evaluate position (xs.map .expression ++ rest) outcome
      (first ++ calls) := by
  induction xs generalizing first with
  | nil =>
      cases h
      exact later
  | cons x xs ih =>
      rw [bindExpressions, same] at h
      split at h
      next => cases h
      next value evaluated =>
        obtain ⟨succeeds, rfl⟩ := Prod.mk.inj h
        exact (ih (Prod.ext succeeds rfl)).named (.expression evaluated)

/-- Expressions of which one is refused are covered up to it, whatever comes after them. -/
theorem covers_of_bindExpressions_error {other : Binder} (same : other.converter = b.converter)
    {position : Nat} (rest : List BinderItem) {e : Error} {xs : List ExpressionBinding}
    {calls : List Binding} (h : other.bindExpressions evaluate xs = (.error e, calls)) :
    b.Covers arguments evaluate position (xs.map .expression ++ rest) (.error e) calls := by
  induction xs generalizing calls with
  | nil => cases h
  | cons x xs ih =>
      rw [bindExpressions, same] at h
      split at h
      next failed =>
        cases h
        exact .refused (.expression failed)
      next value evaluated =>
        obtain ⟨fails, rfl⟩ := Prod.mk.inj h
        exact (ih (Prod.ext fails rfl)).named (.expression evaluated)

/-- Binding covers the items, whatever the binder remembers beside its query. -/
theorem covers_bind {other : Binder} (remembers : other.Remembers b.query)
    (same : other.converter = b.converter) (arguments : Arguments) (evaluate : Evaluator) :
    b.Covers arguments evaluate 0 (b.items arguments) (other.bind arguments evaluate).outcome
      (other.bind arguments evaluate).calls := by
  rw [bind, remembers.query_eq]
  split
  next e calls fails => exact covers_of_bindExpressions_error same _ fails
  next calls succeeds =>
    exact covers_of_bindExpressions_ok same (covers_bindParameters remembers same 0 _) succeeds

/-- Two binders of a query bind a parameter in the same way. -/
theorem Remembers.slotOf_fst_eq {other : Binder} {query : ExpressionQuery}
    (h : b.Remembers query) (h' : other.Remembers query) (p : Parameter) :
    (other.slotOf p).1 = (b.slotOf p).1 := by
  rw [slotOf, slotOf, h.query_eq, h'.query_eq]
  cases p.name with
  | none => rfl
  | some name => simp only [h.isReferenced_fst, h'.isReferenced_fst]

theorem bindArgument_congr {other : Binder} (same : other.converter = b.converter)
    {rest : List Parameter}
    (later : ∀ position,
      (bindParameters arguments other position rest).outcome
          = (bindParameters arguments b position rest).outcome ∧
        (bindParameters arguments other position rest).calls
          = (bindParameters arguments b position rest).calls)
    (p : Parameter) (id : BindId) (position next : Nat) :
    let run := bindArgument arguments b p rest id position next
    let again := bindArgument arguments other p rest id position next
    again.outcome = run.outcome ∧ again.calls = run.calls := by
  intro run again
  simp only [run, again, bindArgument, same]
  split
  next => exact ⟨rfl, rfl⟩
  next value _ =>
    split
    next => exact later position
    next =>
      obtain ⟨outcome, calls⟩ := later next
      exact ⟨outcome, congrArg ([value.bindTo id] ++ ·) calls⟩

/-- What binders remember beside their query changes neither outcome nor calls for
parameters. -/
theorem bindParameters_eq {other : Binder} {query : ExpressionQuery} (h : b.Remembers query)
    (h' : other.Remembers query) (same : other.converter = b.converter) (position : Nat)
    (parameters : List Parameter) :
    let run := bindParameters arguments b position parameters
    let again := bindParameters arguments other position parameters
    again.outcome = run.outcome ∧ again.calls = run.calls := by
  induction parameters generalizing b other position with
  | nil => exact ⟨rfl, rfl⟩
  | cons p rest ih =>
      have converters : (other.slotOf p).2.converter = (b.slotOf p).2.converter := by
        rw [converter_slotOf, converter_slotOf, same]
      have later := fun position => ih (h.slotOf_snd p) (h'.slotOf_snd p) converters position
      rw [bindParameters_eq_bindArgument, bindParameters_eq_bindArgument, h.slotOf_fst_eq h' p]
      cases (b.slotOf p).1 with
      | skipped => exact later position
      | positional => exact bindArgument_congr converters later p _ _ _
      | named name => exact bindArgument_congr converters later p _ _ _

theorem bindExpressions_eq {other : Binder} (same : other.converter = b.converter)
    (xs : List ExpressionBinding) :
    other.bindExpressions evaluate xs = b.bindExpressions evaluate xs := by
  induction xs with
  | nil => rfl
  | cons x rest ih => rw [bindExpressions, bindExpressions, same, ih]

/-- What binders remember beside their query changes neither outcome nor calls. -/
theorem bind_eq {other : Binder} {query : ExpressionQuery} (h : b.Remembers query)
    (h' : other.Remembers query) (same : other.converter = b.converter) (arguments : Arguments)
    (evaluate : Evaluator) :
    (other.bind arguments evaluate).outcome = (b.bind arguments evaluate).outcome ∧
      (other.bind arguments evaluate).calls = (b.bind arguments evaluate).calls := by
  obtain ⟨outcome, calls⟩ := bindParameters_eq h h' same 0 arguments.parameters
  rw [bind, bind, h.query_eq, h'.query_eq, bindExpressions_eq same]
  split
  next => exact ⟨rfl, rfl⟩
  next first _ => exact ⟨outcome, congrArg (first ++ ·) calls⟩

theorem converter_bindParameters (arguments : Arguments) (b : Binder) (position : Nat)
    (parameters : List Parameter) :
    (bindParameters arguments b position parameters).binder.converter = b.converter := by
  induction parameters generalizing b position with
  | nil => rfl
  | cons p rest ih =>
      have next := b.converter_slotOf p
      rcases bindParameters_cons arguments b position p rest with
        run | ⟨e, run⟩ | ⟨value, id, later, run, -⟩
      · rw [run, ih, next]
      · rw [run, next]
      · rw [run]
        exact (ih (b.slotOf p).2 later).trans next

theorem converter_step (b : Binder) (call : BinderCall) :
    (b.step call).converter = b.converter := by
  cases call with
  | reference name => exact b.converter_isReferenced name
  | bind arguments evaluate =>
      rw [step, bind]
      split
      next => rfl
      next => exact converter_bindParameters ..

theorem converter_run (b : Binder) (calls : List BinderCall) :
    (b.run calls).converter = b.converter := by
  induction calls generalizing b with
  | nil => rfl
  | cons call rest ih => exact (ih (b.step call)).trans (b.converter_step call)

/-- Items make no call exactly when each of them can be handled without one. -/
theorem flatten_eq_nil_iff {items : List BinderItem} {pieces : List (List Binding)}
    (h : List.Forall₂ (b.Handles arguments evaluate) items pieces) :
    pieces.flatten = [] ↔ ∀ item ∈ items, b.Handles arguments evaluate item [] := by
  induction h with
  | nil => exact iff_of_true rfl (List.forall_mem_nil _)
  | @cons item piece _ _ here _ ih =>
      rw [List.flatten_cons, List.append_eq_nil_iff, List.forall_mem_cons, ih]
      refine and_congr_left fun _ => ⟨?_, here.eq_nil⟩
      rintro rfl
      exact here

theorem positionsOf_eq_nil {items : List BinderItem} {pieces : List (List Binding)}
    (h : List.Forall₂ (b.Handles arguments evaluate) items pieces)
    (some : b.query.hasBindings = true) : positionsOf pieces.flatten = [] := by
  rw [positionsOf, List.filterMap_eq_nil_iff]
  induction h with
  | nil => exact List.forall_mem_nil _
  | cons here _ ih =>
      rw [List.flatten_cons, List.forall_mem_append]
      exact ⟨here.position?_eq_none some, ih⟩

/-- When binding fails, an item is refused with the error.  The calls are those for the
items before it, which are handled in order, and none is taken back.  So the target is left
alone exactly when each item before the refused one is handled without a call. -/
theorem calls_of_bind_eq_error (query : ExpressionQuery) (converter : EntityConverter)
    (history : List BinderCall) (arguments : Arguments) (evaluate : Evaluator) {e : Error}
    (fails : ((run { query, converter } history).bind arguments evaluate).outcome = .error e) :
    let b : Binder := { query, converter }
    let calls := ((run b history).bind arguments evaluate).calls
    ∃ done item rest pieces, b.items arguments = done ++ item :: rest ∧
      b.Refuses arguments evaluate e item ∧
      List.Forall₂ (b.Handles arguments evaluate) done pieces ∧ calls = pieces.flatten ∧
      (∃ count, positionsOf calls = List.range count) ∧
      (calls = [] ↔ ∀ earlier ∈ done, b.Handles arguments evaluate earlier []) := by
  intro b calls
  have remembers : (run b history).Remembers query :=
    remembers_run (remembers_fresh query converter) history
  obtain ⟨⟨pieces, whole, binds⟩, positions⟩ :=
    covers_bind (b := b) remembers (b.converter_run history) arguments evaluate
  obtain ⟨done, item, rest, split, handled, refused⟩ := binds.exists_of_error fails
  refine ⟨done, item, rest, pieces, split, refused, handled, whole, ?_, ?_⟩
  · simpa only [List.range_eq_range'] using positions
  · rw [← flatten_eq_nil_iff handled, ← whole]

/-- The evaluation of a second expression fails. -/
theorem calls_of_bind_eq_error_second :
    let query : ExpressionQuery := .create "SELECT :#\x7bone\x7d, :#\x7btwo\x7d"
    let converter : EntityConverter := ⟨Dialect.postgres.conversions [], .postgres⟩
    let arguments : Arguments := ⟨[], [], false⟩
    let evaluate : Evaluator := fun expression =>
      if expression = "one" then .ok (.ofValue (.int 1) .integer) else .error .cancelled
    let b : Binder := { query, converter }
    let calls := ((run b []).bind arguments evaluate).calls
    ((run b []).bind arguments evaluate).outcome = .error .cancelled ∧
      ∃ done item rest pieces, b.items arguments = done ++ item :: rest ∧
        b.Refuses arguments evaluate .cancelled item ∧
        List.Forall₂ (b.Handles arguments evaluate) done pieces ∧ calls = pieces.flatten ∧
        (calls = [] ↔ ∀ earlier ∈ done, b.Handles arguments evaluate earlier []) := by
  intro query converter arguments evaluate b calls
  have fails : ((run b []).bind arguments evaluate).outcome = .error .cancelled := by
    decide +kernel
  obtain ⟨done, item, rest, pieces, split, refused, handled, whole, -, untouched⟩ :=
    calls_of_bind_eq_error query converter [] arguments evaluate fails
  exact ⟨fails, done, item, rest, pieces, split, refused, handled, whole, untouched⟩

/-- Binding that fails at a second expression leaves the call for the first on the target. -/
theorem calls_of_bind_eq_error_partial :
    let query : ExpressionQuery := .create "SELECT :#\x7bone\x7d, :#\x7btwo\x7d"
    let b : Binder := ⟨query, ⟨Dialect.postgres.conversions [], .postgres⟩, []⟩
    let evaluate : Evaluator := fun expression =>
      if expression = "one" then .ok (.ofValue (.int 1) .integer) else .error .cancelled
    let run := b.bind ⟨[], [], false⟩ evaluate
    run.outcome = .error .cancelled ∧ run.calls.map Binding.id = [.name "__synthetic_0__"] := by
  decide +kernel

/-- When binding succeeds, the calls are those for the expressions of the query and the
parameters in order, each handled.  The positions among them count from zero, and there is
none when the query has expressions.  A binder that nothing was asked of makes the same
calls. -/
theorem calls_of_bind_eq_ok (query : ExpressionQuery) (converter : EntityConverter)
    (history : List BinderCall) (arguments : Arguments) (evaluate : Evaluator)
    (succeeds : ((run { query, converter } history).bind arguments evaluate).outcome = .ok ()) :
    let b : Binder := { query, converter }
    let calls := ((run b history).bind arguments evaluate).calls
    (∃ pieces, List.Forall₂ (b.Handles arguments evaluate) (b.items arguments) pieces ∧
        calls = pieces.flatten) ∧
      (∃ count, positionsOf calls = List.range count) ∧
      (query.hasBindings = true → positionsOf calls = []) ∧
      (b.bind arguments evaluate).outcome = .ok () ∧
      (b.bind arguments evaluate).calls = calls := by
  intro b calls
  have fresh := remembers_fresh query converter
  have remembers : (run b history).Remembers query := remembers_run fresh history
  have same := b.converter_run history
  obtain ⟨⟨pieces, whole, binds⟩, positions⟩ :=
    covers_bind (b := b) remembers same arguments evaluate
  have handled := binds.forall₂_of_ok succeeds
  obtain ⟨outcome, again⟩ := bind_eq fresh remembers same arguments evaluate
  refine ⟨⟨pieces, handled, whole⟩, ?_, fun some => ?_, outcome.symm.trans succeeds, again.symm⟩
  · simpa only [List.range_eq_range'] using positions
  · rw [show calls = pieces.flatten from whole]
    exact positionsOf_eq_nil handled some

/-- A named argument and two positions, with an absent argument between them, on a binder
that was asked for a name before. -/
theorem calls_of_bind_eq_ok_omitted :
    let query : ExpressionQuery := .create "SELECT * FROM t WHERE a = $1 AND b = :b AND c = $2"
    let converter : EntityConverter := ⟨Dialect.postgres.conversions [], .postgres⟩
    let arguments : Arguments :=
      ⟨[⟨0, some "a", .text⟩, ⟨1, none, .text⟩, ⟨2, some "b", .integer⟩, ⟨3, none, .integer⟩],
        [.text "x", .null, .int 1, .int 2], false⟩
    let evaluate : Evaluator := fun _ => .error .cancelled
    let b : Binder := { query, converter }
    let calls := ((run b [.reference "b"]).bind arguments evaluate).calls
    ((run b [.reference "b"]).bind arguments evaluate).outcome = .ok () ∧
      calls.map Binding.id = [.index 0, .name "b", .index 1] ∧
      (∃ pieces, List.Forall₂ (b.Handles arguments evaluate) (b.items arguments) pieces ∧
        calls = pieces.flatten) ∧
      (b.bind arguments evaluate).calls = calls := by
  intro query converter arguments evaluate b calls
  have succeeds : ((run b [.reference "b"]).bind arguments evaluate).outcome = .ok () := by
    decide +kernel
  obtain ⟨handled, -, -, -, again⟩ :=
    calls_of_bind_eq_ok query converter [.reference "b"] arguments evaluate succeeds
  exact ⟨succeeds, by decide +kernel, handled, again⟩

end Binder

end DataMapper
