import DataMapper.Proofs.Strategy
import Mathlib.Data.List.Induction

/-!
# What a context knows after calls

A `ContextCall` registers or resolves a type, or looks one up.  Only the first two change a
context, and they change it in one way: they add the description of a type that the context did
not hold (`MappingContext.step_cases`).  So what a context holds it holds from then on
(`MappingContext.find?_after`), and what it holds of a type is what a resolution of that type
gave (`MappingContext.find?_after_iff`).

A call names a type by its identity, and `EntityTypes` are the types that identities stand for.
What a strategy says of a type does not depend on what was called before, but for the columns of
a type that it does not resolve.  These are its own columns from the first successful resolution
on (`MappingContext.resolved_after`).
-/

namespace DataMapper

/-- Entity types, one for each identity. -/
structure EntityTypes where
  get : TypeId → EntityType
  typeId_get : ∀ id, (get id).typeId = id

/-- A call of a mapping context. -/
inductive ContextCall where
  /-- Resolves a type so that it is known later. -/
  | register (id : TypeId)
  | resolve (id : TypeId)
  | find (id : TypeId)
  | require (id : TypeId)
  deriving DecidableEq, Repr

/-- The type that a call resolves. -/
def ContextCall.resolves? : ContextCall → Option TypeId
  | register id | resolve id => some id
  | find _ | require _ => none

namespace MappingContext

variable {types : EntityTypes} {c : MappingContext} {id : TypeId} {entity : PersistentEntity}

/-- Resolves a type without giving its description. -/
def register (c : MappingContext) (type : EntityType) : Except Error Unit × MappingContext :=
  let (entity, context) := c.resolve type
  (entity.map fun _ => (), context)

/-- The context after a call. -/
def step (types : EntityTypes) (c : MappingContext) : ContextCall → MappingContext
  | .register id => (c.register (types.get id)).2
  | .resolve id => (c.resolve (types.get id)).2
  | .find _ | .require _ => c

/-- The context after calls, one after the other. -/
def after (types : EntityTypes) (c : MappingContext) : List ContextCall → MappingContext
  | [] => c
  | call :: rest => (c.step types call).after types rest

theorem after_append (types : EntityTypes) (c : MappingContext) (a b : List ContextCall) :
    c.after types (a ++ b) = (c.after types a).after types b := by
  induction a generalizing c with
  | nil => rfl
  | cons call rest ih => exact ih (c.step types call)

/-! ## One call -/

/-- A call that resolves a type does to a context what resolving it does. -/
theorem step_of_resolves? {call : ContextCall} (h : call.resolves? = some id) :
    c.step types call = (c.resolve (types.get id)).2 := by
  cases call with
  | register other => cases h; rfl
  | resolve other => cases h; rfl
  | find other => cases h
  | require other => cases h

/-- All that a resolution of a type can do, by the identity of the type. -/
theorem resolve_get_cases (types : EntityTypes) (c : MappingContext) (id : TypeId) :
    (∃ entity, c.find? id = some entity ∧ c.resolve (types.get id) = (.ok entity, c)) ∨
      (c.find? id = none ∧
        ((∃ entity, (types.get id).resolve = .ok entity ∧
            c.resolve (types.get id) = (.ok entity, ⟨(id, entity) :: c.entities⟩)) ∨
          ∃ e, (types.get id).resolve = .error e ∧ c.resolve (types.get id) = (.error e, c))) := by
  have all := c.resolve_cases (types.get id)
  rw [types.typeId_get] at all
  exact all

/-- All that a call can do to a context: nothing, or to add the description of a type that
the context does not hold. -/
theorem step_cases (types : EntityTypes) (c : MappingContext) (call : ContextCall) :
    c.step types call = c ∨ ∃ id entity, call.resolves? = some id ∧ c.find? id = none ∧
      c.resolve (types.get id) = (.ok entity, c.step types call) ∧
      (types.get id).resolve = .ok entity ∧
      c.step types call = ⟨(id, entity) :: c.entities⟩ := by
  cases resolves : call.resolves? with
  | none =>
      left
      cases call with
      | register id => cases resolves
      | resolve id => cases resolves
      | find id => rfl
      | require id => rfl
  | some id =>
      rw [step_of_resolves? resolves]
      obtain ⟨entity, -, held⟩ | ⟨new, ⟨entity, resolved, added⟩ | ⟨e, -, kept⟩⟩ :=
        resolve_get_cases types c id
      · exact .inl (by rw [held])
      · exact .inr ⟨id, entity, rfl, new, by rw [added], resolved, by rw [added]⟩
      · exact .inl (by rw [kept])

/-- A resolution that fails leaves the context as it was. -/
theorem step_of_error {call : ContextCall} (resolves : call.resolves? = some id) {e : Error}
    (h : (c.resolve (types.get id)).1 = .error e) : c.step types call = c := by
  rw [step_of_resolves? resolves]
  obtain ⟨entity, -, held⟩ | ⟨-, ⟨entity, -, added⟩ | ⟨e, -, kept⟩⟩ :=
    resolve_get_cases types c id
  · rw [held]
  · rw [added] at h
    cases h
  · rw [kept]

/-- A resolution that succeeds gives what the context holds afterwards. -/
theorem find?_step_of_ok {call : ContextCall} (resolves : call.resolves? = some id)
    (h : (c.resolve (types.get id)).1 = .ok entity) :
    (c.step types call).find? id = some entity := by
  rw [step_of_resolves? resolves]
  obtain ⟨other, found, held⟩ | ⟨-, ⟨other, -, added⟩ | ⟨e, -, kept⟩⟩ :=
    resolve_get_cases types c id
  · rw [held] at h ⊢
    cases h
    exact found
  · rw [added] at h ⊢
    cases h
    exact List.lookup_cons_self
  · rw [kept] at h
    cases h

/-- A call replaces nothing. -/
theorem find?_step (h : c.find? id = some entity) (call : ContextCall) :
    (c.step types call).find? id = some entity := by
  obtain same | ⟨added, other, -, new, -, -, grown⟩ := step_cases types c call
  · rw [same]
    exact h
  · have differs : id ≠ added := by
      rintro rfl
      cases new.symm.trans h
    rw [grown, find?, List.lookup_cons, beq_eq_false_iff_ne.mpr differs]
    exact h

/-- What a context holds after a call it held before, or the call resolved it. -/
theorem cases_of_find?_step {call : ContextCall}
    (h : (c.step types call).find? id = some entity) :
    c.find? id = some entity ∨ (call.resolves? = some id ∧
      (c.resolve (types.get id)).1 = .ok entity ∧ (types.get id).resolve = .ok entity) := by
  obtain same | ⟨added, other, resolves, -, outcome, resolved, grown⟩ := step_cases types c call
  · rw [same] at h
    exact .inl h
  · rw [grown, find?, List.lookup_cons] at h
    split at h
    next named =>
      obtain rfl := beq_iff_eq.mp named
      cases h
      exact .inr ⟨resolves, by rw [outcome], resolved⟩
    next => exact .inl h

/-! ## Many calls -/

/-- Calls replace nothing. -/
theorem find?_after (h : c.find? id = some entity) (calls : List ContextCall) :
    (c.after types calls).find? id = some entity := by
  induction calls generalizing c with
  | nil => exact h
  | cons call rest ih => exact ih (find?_step h call)

/-- Whether a resolution of a type succeeded among the calls of a context that was empty before,
and what it gave. -/
def Succeeded (types : EntityTypes) (calls : List ContextCall) (id : TypeId)
    (entity : PersistentEntity) : Prop :=
  ∃ earlier call later, calls = earlier ++ call :: later ∧ call.resolves? = some id ∧
    ((empty.after types earlier).resolve (types.get id)).1 = .ok entity

theorem Succeeded.append {calls : List ContextCall} (h : Succeeded types calls id entity)
    (more : List ContextCall) : Succeeded types (calls ++ more) id entity := by
  obtain ⟨earlier, call, later, rfl, resolves, outcome⟩ := h
  exact ⟨earlier, call, later ++ more, by simp, resolves, outcome⟩

/-- What a resolution gave is held. -/
theorem find?_of_succeeded {calls : List ContextCall} (h : Succeeded types calls id entity) :
    (empty.after types calls).find? id = some entity := by
  obtain ⟨earlier, call, later, rfl, resolves, outcome⟩ := h
  rw [after_append, after]
  exact find?_after (find?_step_of_ok resolves outcome) later

/-- What is held a resolution gave, and it is as the type resolves by itself. -/
theorem succeeded_of_find? {calls : List ContextCall}
    (h : (empty.after types calls).find? id = some entity) :
    Succeeded types calls id entity ∧ (types.get id).resolve = .ok entity := by
  induction calls using List.reverseRecOn with
  | nil => cases h
  | append_singleton past call ih =>
      rw [after_append, after, after] at h
      rcases cases_of_find?_step h with held | ⟨resolves, outcome, resolved⟩
      · obtain ⟨success, resolved⟩ := ih held
        exact ⟨success.append [call], resolved⟩
      · exact ⟨⟨past, call, [], rfl, resolves, outcome⟩, resolved⟩

/-- A type is held exactly as a resolution of it gave it. -/
theorem find?_after_iff {calls : List ContextCall} :
    (empty.after types calls).find? id = some entity ↔ Succeeded types calls id entity :=
  ⟨fun held => (succeeded_of_find? held).1, find?_of_succeeded⟩

/-- A resolution gives the same at every point of a run. -/
theorem resolve_after (types : EntityTypes) (calls : List ContextCall) (id : TypeId) :
    ((empty.after types calls).resolve (types.get id)).1 = (types.get id).resolve := by
  obtain ⟨entity, found, held⟩ | ⟨-, ⟨entity, resolved, added⟩ | ⟨e, resolved, kept⟩⟩ :=
    resolve_get_cases types (empty.after types calls) id
  · rw [held, (succeeded_of_find? found).2]
  · rw [added, resolved]
  · rw [kept, resolved]

/-- A type that has to be known is one that is held. -/
theorem require_eq_ok : c.require id = .ok entity ↔ c.find? id = some entity := by
  unfold require
  cases c.find? id with
  | some held => exact ⟨fun h => by cases h; rfl, fun h => by cases h; rfl⟩
  | none => exact ⟨nofun, nofun⟩

end MappingContext

/-! ## Columns of a type -/

namespace Strategy

variable {s : Strategy}

/-- The columns of a type are those of what its resolution gives. -/
theorem allColumns_eq (s : Strategy) (type : EntityType) :
    s.allColumns type = ((s.context.resolve type).1.map PersistentEntity.columns,
      { s with context := (s.context.resolve type).2 }) := by
  unfold allColumns withEntity
  cases s.context.resolve type with
  | mk outcome context => cases outcome <;> rfl

theorem columnsFor_of_some {id : TypeId} {entity : PersistentEntity}
    (h : s.context.find? id = some entity) : s.columnsFor id = entity.columns := by
  rw [columnsFor, h]

theorem columnsFor_of_none {id : TypeId} (h : s.context.find? id = none) :
    s.columnsFor id = [.unquoted "*"] := by
  rw [columnsFor, h]

end Strategy

namespace MappingContext

/-- After any calls, a type is held exactly as a resolution of it gave it, which is as it
resolves by itself, and it stays so whatever is called later.  A resolution that fails changes
nothing.  So a strategy gives the columns of the type the same at every point, and by its
identity `*` until a resolution of it succeeded and its own columns from then on. -/
theorem resolved_after (types : EntityTypes) (calls : List ContextCall) (id : TypeId) :
    let c := empty.after types calls
    let type := types.get id
    (∀ entity, (c.find? id = some entity ↔ Succeeded types calls id entity) ∧
        (c.require id = .ok entity ↔ Succeeded types calls id entity)) ∧
      (∀ entity, Succeeded types calls id entity → type.resolve = .ok entity ∧
        ∀ later, (c.after types later).find? id = some entity) ∧
      (∀ call other e, call.resolves? = some other → (c.resolve (types.get other)).1 = .error e →
        c.step types call = c) ∧
      ∀ s : Strategy, s.context = c →
        (s.allColumns type).1 = type.resolve.map PersistentEntity.columns ∧
        (s.allColumns type).2.context = c.after types [.resolve id] ∧
        ((∃ entity, Succeeded types calls id entity) →
          s.columnsFor id = type.describe.columns) ∧
        ((¬ ∃ entity, Succeeded types calls id entity) → s.columnsFor id = [.unquoted "*"]) := by
  intro c type
  refine ⟨fun entity => ⟨find?_after_iff, require_eq_ok.trans find?_after_iff⟩,
    fun entity success => ?_, fun call other e resolves failed => step_of_error resolves failed,
    fun s context => ⟨?_, ?_, ?_, ?_⟩⟩
  · have found := find?_of_succeeded success
    exact ⟨(succeeded_of_find? found).2, fun later => find?_after found later⟩
  · rw [Strategy.allColumns_eq, context, resolve_after]
  · rw [Strategy.allColumns_eq, context]
    rfl
  · rintro ⟨entity, success⟩
    have found := find?_of_succeeded success
    obtain ⟨-, rfl⟩ := EntityType.resolve_eq_ok.mp (succeeded_of_find? found).2
    refine Strategy.columnsFor_of_some ?_
    rw [context]
    exact found
  · intro never
    refine Strategy.columnsFor_of_none ?_
    rw [context]
    cases found : c.find? id with
    | none => rfl
    | some entity => exact absurd ⟨entity, find?_after_iff.mp found⟩ never

/-- A type that is looked up, missed once for another of its name that does not resolve, and
resolved. -/
theorem resolved_after_person :
    let id : TypeId := ⟨0⟩
    let person : EntityType := {
      typeId := id
      typeName := "Person"
      table := .unquoted "person"
      fields := [.ofType "id" (.unquoted "id") ⟨.int64, true⟩ true] }
    let broken (other : TypeId) : EntityType :=
      { typeId := other, typeName := "Person", table := .unquoted "", fields := [] }
    ∃ types : EntityTypes, types.get id = person ∧
      (∀ other, other ≠ id → types.get other = broken other) ∧
      let before : List ContextCall := [.find id, .register ⟨1⟩]
      let strategy (calls : List ContextCall) : Strategy :=
        .new .h2 [] (empty.after types calls) 0
      (strategy before).columnsFor id = [.unquoted "*"] ∧
        (strategy (before ++ [.register id])).columnsFor id = [.unquoted "id"] := by
  intro id person broken
  let types : EntityTypes := {
    get := fun other => if other = id then person else broken other
    typeId_get := by
      intro other
      split
      next same => exact same.symm
      next => rfl }
  refine ⟨types, rfl, fun other differs => if_neg differs, ?_⟩
  intro before strategy
  have never : ¬ ∃ entity, Succeeded types before id entity := by
    rintro ⟨entity, success⟩
    exact nomatch find?_of_succeeded success
  have success : Succeeded types (before ++ [.register id]) id person.describe :=
    ⟨before, .register id, [], rfl, rfl, rfl⟩
  obtain ⟨-, -, -, first⟩ := resolved_after types before id
  obtain ⟨-, -, -, last⟩ := resolved_after types (before ++ [.register id]) id
  exact ⟨(first (strategy before) rfl).2.2.2 never,
    (last (strategy (before ++ [.register id])) rfl).2.2.1 ⟨_, success⟩⟩

end MappingContext

end DataMapper
