import DataMapper.Proofs.Binder.Calls
import DataMapper.Proofs.Expression.Pieces
import Mathlib.Data.List.Nodup

/-!
# The names of calls

The calls of a binder are made under positions and under names.  The positions of a run are
different, so the addresses are different exactly when the names are (`nodup_ids_iff`).

The names are those of the expressions and then those of the parameters that are bound by
name (`Binder.BindsUnder`).  The first are different because they are numbered, and the second
are as different as the declared names.  But expressions are numbered without a look at the
query, and parameters are looked for in the text that the numbers are written into.  So a
parameter that is declared under the name of an expression may be bound beside it, and only
then is an address used twice (`Binder.nodup_ids_of_bind`).
-/

namespace DataMapper

/-! ## Names and positions -/

/-- The name a call is made under, if it is no position. -/
def Binding.name? (call : Binding) : Option String :=
  match call.id with
  | .name name => some name
  | .index _ => none

/-- The names calls are made under, in order. -/
def namesOf (calls : List Binding) : List String := calls.filterMap Binding.name?

theorem Binding.name?_eq_some_iff {call : Binding} {name : String} :
    call.name? = some name ↔ call.id = .name name := by
  rw [name?]
  cases call.id <;> simp

theorem Binding.position?_eq_some_iff {call : Binding} {position : Nat} :
    call.position? = some position ↔ call.id = .index position := by
  rw [position?]
  cases call.id <;> simp

theorem mem_namesOf_iff {calls : List Binding} {name : String} :
    name ∈ namesOf calls ↔ .name name ∈ calls.map Binding.id := by
  simp only [namesOf, List.mem_filterMap, List.mem_map, Binding.name?_eq_some_iff]

theorem mem_positionsOf_iff {calls : List Binding} {position : Nat} :
    position ∈ positionsOf calls ↔ .index position ∈ calls.map Binding.id := by
  simp only [positionsOf, List.mem_filterMap, List.mem_map, Binding.position?_eq_some_iff]

theorem namesOf_append (a b : List Binding) : namesOf (a ++ b) = namesOf a ++ namesOf b :=
  List.filterMap_append

/-- Addresses are different when positions are and names are. -/
theorem nodup_ids_iff {calls : List Binding} :
    (calls.map Binding.id).Nodup ↔ (positionsOf calls).Nodup ∧ (namesOf calls).Nodup := by
  induction calls with
  | nil => exact iff_of_true List.nodup_nil ⟨List.nodup_nil, List.nodup_nil⟩
  | cons call rest ih =>
      rw [List.map_cons, List.nodup_cons, ih]
      cases id : call.id with
      | index position =>
          have positions : positionsOf (call :: rest) = position :: positionsOf rest :=
            List.filterMap_cons_some (Binding.position?_eq_some_iff.mpr id)
          have names : namesOf (call :: rest) = namesOf rest :=
            List.filterMap_cons_none (by rw [Binding.name?, id])
          rw [← mem_positionsOf_iff, positions, names, List.nodup_cons, and_assoc]
      | name name =>
          have positions : positionsOf (call :: rest) = positionsOf rest :=
            List.filterMap_cons_none (by rw [Binding.position?, id])
          have names : namesOf (call :: rest) = name :: namesOf rest :=
            List.filterMap_cons_some (Binding.name?_eq_some_iff.mpr id)
          rw [← mem_namesOf_iff, positions, names, List.nodup_cons, and_left_comm]

theorem Settable.namesOf_bindTo_name (s : Settable) (name : String) :
    namesOf [s.bindTo (.name name)] = [name] := by
  have named : (s.bindTo (.name name)).name? = some name :=
    Binding.name?_eq_some_iff.mpr (s.id_bindTo _)
  rw [namesOf, List.filterMap_cons_some named, List.filterMap_nil]

theorem Settable.namesOf_bindTo_index (s : Settable) (position : Nat) :
    namesOf [s.bindTo (.index position)] = [] := by
  have unnamed : (s.bindTo (.index position)).name? = none := by rw [Binding.name?, s.id_bindTo]
  rw [namesOf, List.filterMap_cons_none unnamed, List.filterMap_nil]

/-! ## Names of expressions -/

/-- Expressions are named by their positions. -/
theorem map_name_bindingsOf (position : Nat) (pieces : List QueryPiece) :
    (bindingsOf position pieces).map ExpressionBinding.name
      = (List.range' position (bindingsOf position pieces).length).map syntheticName := by
  induction pieces generalizing position with
  | nil => rfl
  | cons piece rest ih =>
      cases piece with
      | plain c => exact ih position
      | expression kind body =>
          rw [bindingsOf, List.map_cons, ih, List.length_cons, List.range'_succ, List.map_cons]

theorem syntheticName_injective : Function.Injective syntheticName := by
  intro i j h
  have alone : (syntheticName i).toList ++ [] = (syntheticName j).toList := by
    rw [List.append_nil, h]
  exact syntheticName_append_inj alone

namespace ExpressionQuery

theorem map_name_create (q : String) :
    (create q).bindings.map ExpressionBinding.name
      = (List.range (create q).bindings.length).map syntheticName := by
  rw [List.range_eq_range']
  exact map_name_bindingsOf 0 (queryPieces 0 q.toList)

/-- The names that stand for the expressions of a query are different. -/
theorem nodup_names_create (q : String) :
    ((create q).bindings.map ExpressionBinding.name).Nodup := by
  rw [map_name_create]
  exact List.Nodup.map syntheticName_injective List.nodup_range

end ExpressionQuery

/-! ## Names of items -/

namespace Binder

/-- Whether the argument of a parameter is bound under a name: the parameter has it, the query
mentions it, and the argument is admitted. -/
def BindsUnder (b : Binder) (arguments : Arguments) (p : Parameter) (name : String) : Prop :=
  p.name = some name ∧ mentions b.query.query name = true ∧
    ∃ value, b.converter.bindValue (arguments.argument p) = .ok value ∧ arguments.Admits value

variable {b : Binder} {arguments : Arguments} {evaluate : Evaluator}

namespace Handles

variable {x : ExpressionBinding} {p : Parameter} {piece : List Binding}

theorem namesOf_expression (h : b.Handles arguments evaluate (.expression x) piece) :
    namesOf piece = [x.name] := by
  cases h with
  | expression evaluated => exact Settable.namesOf_bindTo_name ..

/-- A parameter is bound under its name or under none. -/
theorem mem_namesOf (h : b.Handles arguments evaluate (.parameter p) piece) {name : String} :
    name ∈ namesOf piece ↔ b.BindsUnder arguments p name := by
  cases h with
  | @named _ other value has mentioned bound admitted =>
      rw [Settable.namesOf_bindTo_name, List.mem_singleton]
      constructor
      · rintro rfl
        exact ⟨has, mentioned, value, bound, admitted⟩
      · rintro ⟨same, -⟩
        exact Option.some.inj (same.symm.trans has)
  | positional position unmentioned _ _ _ =>
      rw [Settable.namesOf_bindTo_index]
      refine iff_of_false List.not_mem_nil ?_
      rintro ⟨has, mentioned, -⟩
      exact unmentioned ⟨name, has, mentioned⟩
  | skipped unmentioned _ =>
      refine iff_of_false List.not_mem_nil ?_
      rintro ⟨has, mentioned, -⟩
      exact unmentioned ⟨name, has, mentioned⟩
  | omitted _ bound refused =>
      refine iff_of_false List.not_mem_nil ?_
      rintro ⟨-, -, value, again, admitted⟩
      cases bound.symm.trans again
      exact refused admitted

theorem namesOf_sublist (h : b.Handles arguments evaluate (.parameter p) piece) :
    (namesOf piece).Sublist p.name.toList := by
  cases h with
  | named has _ _ _ =>
      rw [Settable.namesOf_bindTo_name, has]
      exact List.Sublist.refl _
  | positional _ _ _ _ _ =>
      rw [Settable.namesOf_bindTo_index]
      exact List.nil_sublist _
  | skipped => exact List.nil_sublist _
  | omitted => exact List.nil_sublist _

end Handles

/-- The names of expressions come before those of the items after them. -/
theorem exists_namesOf_expressions {xs : List ExpressionBinding} {items : List BinderItem}
    {pieces : List (List Binding)}
    (h : List.Forall₂ (b.Handles arguments evaluate) (xs.map .expression ++ items) pieces) :
    ∃ later, List.Forall₂ (b.Handles arguments evaluate) items later ∧
      namesOf pieces.flatten = xs.map ExpressionBinding.name ++ namesOf later.flatten := by
  induction xs generalizing pieces with
  | nil => exact ⟨pieces, h, rfl⟩
  | cons x xs ih =>
      cases h with
      | cons here others =>
          obtain ⟨later, handled, names⟩ := ih others
          refine ⟨later, handled, ?_⟩
          rw [List.flatten_cons, namesOf_append, here.namesOf_expression, names]
          rfl

/-- The names of parameters are declared in that order, each being bound under its name. -/
theorem namesOf_parameters {parameters : List Parameter} {pieces : List (List Binding)}
    (h : List.Forall₂ (b.Handles arguments evaluate) (parameters.map .parameter) pieces) :
    (namesOf pieces.flatten).Sublist (parameters.filterMap Parameter.name) ∧
      ∀ name, name ∈ namesOf pieces.flatten ↔
        ∃ p ∈ parameters, b.BindsUnder arguments p name := by
  induction parameters generalizing pieces with
  | nil =>
      cases h
      exact ⟨List.nil_sublist _, fun name => by simp [namesOf]⟩
  | cons p rest ih =>
      cases h with
      | cons here others =>
          obtain ⟨sublist, mem⟩ := ih others
          have whole : (p :: rest).filterMap Parameter.name
              = p.name.toList ++ rest.filterMap Parameter.name := by
            rw [List.filterMap_cons]
            cases p.name <;> rfl
          rw [List.flatten_cons, namesOf_append, whole]
          refine ⟨here.namesOf_sublist.append sublist, fun name => ?_⟩
          rw [List.mem_append, here.mem_namesOf, mem]
          simp

/-! ## Runs -/

/-- When binding succeeds and parameters are declared under different names, the addresses of
the calls are different exactly when no parameter is bound under the name of an expression.
Nothing else can make two of them the same. -/
theorem nodup_ids_of_bind (q : String) (converter : EntityConverter) (history : List BinderCall)
    (arguments : Arguments) (evaluate : Evaluator)
    (declared : (arguments.parameters.filterMap Parameter.name).Nodup)
    (succeeds : ((run { query := .create q, converter } history).bind arguments evaluate).outcome
      = .ok ()) :
    let b : Binder := { query := .create q, converter }
    let calls := ((run b history).bind arguments evaluate).calls
    (calls.map Binding.id).Nodup ↔
      ∀ p ∈ arguments.parameters, ∀ position < b.query.bindings.length,
        ¬ b.BindsUnder arguments p (syntheticName position) := by
  intro b calls
  have remembers : (run b history).Remembers b.query :=
    remembers_run (remembers_fresh b.query converter) history
  obtain ⟨⟨pieces, whole, binds⟩, count, positions⟩ :=
    covers_bind (b := b) remembers (b.converter_run history) arguments evaluate
  obtain ⟨later, handled, names⟩ :=
    exists_namesOf_expressions (binds.forall₂_of_ok succeeds)
  obtain ⟨sublist, mem⟩ := namesOf_parameters handled
  have numbered : (positionsOf calls).Nodup := by
    rw [positions]
    exact List.nodup_range'
  have expressions : (b.query.bindings.map ExpressionBinding.name).Nodup :=
    ExpressionQuery.nodup_names_create q
  rw [nodup_ids_iff, and_iff_right numbered, show calls = pieces.flatten from whole, names,
    List.nodup_append, and_iff_right expressions, and_iff_right (declared.sublist sublist),
    ExpressionQuery.map_name_create]
  constructor
  · intro apart p hp position small bound
    refine apart _ (List.mem_map_of_mem (List.mem_range.mpr small)) _ ?_ rfl
    exact (mem _).mpr ⟨p, hp, bound⟩
  · rintro free name own other hother rfl
    obtain ⟨position, small, rfl⟩ := List.mem_map.mp own
    obtain ⟨p, hp, bound⟩ := (mem _).mp hother
    exact free p hp position (List.mem_range.mp small) bound

/-- An expression and two parameters, of which the query references one, on a binder that was
asked for a name before. -/
theorem nodup_ids_of_bind_city :
    let q := "SELECT * FROM t WHERE a = :#\x7bx\x7d AND city = :city"
    let converter : EntityConverter := ⟨Dialect.postgres.conversions [], .postgres⟩
    let arguments : Arguments :=
      ⟨[⟨0, some "city", .text⟩, ⟨1, some "age", .integer⟩], [.text "here", .int 1], false⟩
    let evaluate : Evaluator := fun _ => .ok (.ofValue (.int 1) .integer)
    let b : Binder := { query := .create q, converter }
    let calls := ((run b [.reference "age"]).bind arguments evaluate).calls
    (arguments.parameters.filterMap Parameter.name).Nodup ∧
      ((run b [.reference "age"]).bind arguments evaluate).outcome = .ok () ∧
      (calls.map Binding.id).Nodup ∧
      ∀ p ∈ arguments.parameters, ∀ position < b.query.bindings.length,
        ¬ b.BindsUnder arguments p (syntheticName position) := by
  intro q converter arguments evaluate b calls
  have declared : (arguments.parameters.filterMap Parameter.name).Nodup := by decide
  have succeeds : ((run b [.reference "age"]).bind arguments evaluate).outcome = .ok () := by
    decide +kernel
  have different : (calls.map Binding.id).Nodup := by decide +kernel
  exact ⟨declared, succeeds, different,
    (nodup_ids_of_bind q converter [.reference "age"] arguments evaluate declared succeeds).mp
      different⟩

/-- A query that references the name of its own expression has two values bound under it. -/
theorem nodup_ids_of_bind_captured :
    let q := "SELECT :#\x7bx\x7d, :__synthetic_0__"
    let converter : EntityConverter := ⟨Dialect.postgres.conversions [], .postgres⟩
    let arguments : Arguments := ⟨[⟨0, some "__synthetic_0__", .integer⟩], [.int 2], false⟩
    let evaluate : Evaluator := fun _ => .ok (.ofValue (.int 1) .integer)
    let b : Binder := { query := .create q, converter }
    let run := b.bind arguments evaluate
    mentions q "__synthetic_0__" = true ∧
      (arguments.parameters.filterMap Parameter.name).Nodup ∧ run.outcome = .ok () ∧
      run.calls.map Binding.id = [.name "__synthetic_0__", .name "__synthetic_0__"] ∧
      ¬ (run.calls.map Binding.id).Nodup := by
  decide +kernel

end Binder

end DataMapper
