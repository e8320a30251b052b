import DataMapper.Strategy

/-!
# Strategies and their types

A strategy resolves a type when it is first used.  What it does with the type it
does with the description of the type, and so does the strategy it becomes, as
long as the context knows no other description of the type.
-/

namespace DataMapper

/-- A type resolves when nothing is wrong with its description, which it gives. -/
theorem EntityType.resolve_eq_ok {type : EntityType} {entity : PersistentEntity} :
    type.resolve = .ok entity ↔ type.describe.fault? = none ∧ entity = type.describe := by
  rw [resolve, PersistentEntity.validate]
  cases type.describe.fault? with
  | some fault => exact ⟨nofun, fun h => by cases h.1⟩
  | none => exact ⟨fun h => by cases h; exact ⟨rfl, rfl⟩, fun h => congrArg Except.ok h.2.symm⟩

/-- Whether a context knows a type by its own description, if it knows it at all. -/
def MappingContext.Knows (c : MappingContext) (type : EntityType) : Prop :=
  ∀ entity, c.find? type.typeId = some entity → entity = type.describe

theorem MappingContext.knows_empty (type : EntityType) : MappingContext.empty.Knows type := by
  intro entity found
  cases found

/-- All that a resolution can do: it gives what the context holds, or resolves the type and
adds the description when there is one. -/
theorem MappingContext.resolve_cases (c : MappingContext) (type : EntityType) :
    (∃ entity, c.find? type.typeId = some entity ∧ c.resolve type = (.ok entity, c)) ∨
      (c.find? type.typeId = none ∧
        ((∃ entity, type.resolve = .ok entity ∧
            c.resolve type = (.ok entity, ⟨(type.typeId, entity) :: c.entities⟩)) ∨
          ∃ e, type.resolve = .error e ∧ c.resolve type = (.error e, c))) := by
  unfold resolve
  cases found : c.find? type.typeId with
  | some entity => exact .inl ⟨entity, rfl, rfl⟩
  | none =>
      refine .inr ⟨rfl, ?_⟩
      cases resolved : type.resolve with
      | ok entity => exact .inl ⟨entity, rfl, rfl⟩
      | error e => exact .inr ⟨e, rfl, rfl⟩

/-- A type that resolves has its description, which the context holds from then on. -/
theorem MappingContext.resolve_eq_ok {c context : MappingContext} {type : EntityType}
    {entity : PersistentEntity} (known : c.Knows type)
    (h : c.resolve type = (.ok entity, context)) :
    entity = type.describe ∧ context.find? type.typeId = some type.describe := by
  obtain ⟨held, found, same⟩ | ⟨-, ⟨own, resolved, same⟩ | ⟨e, -, same⟩⟩ := c.resolve_cases type
  · rw [same] at h
    cases h
    obtain rfl := known _ found
    exact ⟨rfl, found⟩
  · rw [same] at h
    cases h
    obtain ⟨-, rfl⟩ := EntityType.resolve_eq_ok.mp resolved
    exact ⟨rfl, List.lookup_cons_self⟩
  · rw [same] at h
    cases h

namespace Strategy

variable {s after : Strategy} {type : EntityType}

/-- What was made of the description of a type leaves a strategy that has it. -/
theorem withEntity_eq_ok {α : Type} {f : PersistentEntity → Except Error α} {a : α}
    (known : s.context.Knows type) (h : s.withEntity type f = (.ok a, after)) :
    f type.describe = .ok a ∧ after.converter = s.converter ∧
      after.context.find? type.typeId = some type.describe := by
  unfold withEntity at h
  cases resolved : s.context.resolve type with
  | mk entity context =>
      rw [resolved] at h
      cases entity with
      | error e => cases h
      | ok entity =>
          obtain ⟨rfl, found⟩ := MappingContext.resolve_eq_ok known resolved
          obtain ⟨made, rfl⟩ := Prod.mk.inj h
          exact ⟨made, rfl, found⟩

/-- A strategy works on the description of a type that resolves. -/
theorem withEntity_of_resolve {α : Type} (f : PersistentEntity → Except Error α)
    (known : s.context.Knows type) (resolves : type.resolve = .ok type.describe) :
    (s.withEntity type f).1 = f type.describe := by
  unfold withEntity
  obtain ⟨entity, found, same⟩ | ⟨-, ⟨entity, own, same⟩ | ⟨e, refused, -⟩⟩ :=
    s.context.resolve_cases type
  · rw [same, known entity found]
    rfl
  · rw [resolves] at own
    cases own
    rw [same]
    rfl
  · rw [resolves] at refused
    cases refused

/-- A strategy that has the description of a type works on it, and stays as it is. -/
theorem withEntity_eq_of_find? {α : Type} (f : PersistentEntity → Except Error α)
    (found : s.context.find? type.typeId = some type.describe) :
    s.withEntity type f = (f type.describe, s) := by
  rw [withEntity, MappingContext.resolve, found]
  rfl

theorem withEntity_of_find? {α : Type} (f : PersistentEntity → Except Error α)
    (found : s.context.find? type.typeId = some type.describe) :
    (s.withEntity type f).1 = f type.describe := by
  rw [withEntity_eq_of_find? f found]

end Strategy

end DataMapper
