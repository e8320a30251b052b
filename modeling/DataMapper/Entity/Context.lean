import DataMapper.Entity

/-!
# Mapping contexts

A `MappingContext` holds the descriptions of the entity types that were
resolved, by the identity of the type.  A type is resolved when it is first used,
and its description stays as it is.  A type that does not resolve leaves the
context as it was.
-/

namespace DataMapper

/-- The descriptions of resolved entity types. -/
structure MappingContext where
  /-- The descriptions by the identities of their types, the latest first. -/
  entities : List (TypeId × PersistentEntity)
  deriving Repr

namespace MappingContext

/-- The context without descriptions. -/
def empty : MappingContext := ⟨[]⟩

/-- The description of a type that was resolved. -/
def find? (c : MappingContext) (typeId : TypeId) : Option PersistentEntity :=
  c.entities.lookup typeId

/-- The description of a type that has to have been resolved. -/
def require (c : MappingContext) (typeId : TypeId) : Except Error PersistentEntity :=
  match c.find? typeId with
  | some entity => .ok entity
  | none => .error (.mapping .unregistered none)

/-- The description of a type, which is resolved when it was not before, and the
context afterwards. -/
def resolve (c : MappingContext) (type : EntityType) :
    Except Error PersistentEntity × MappingContext :=
  match c.find? type.typeId with
  | some entity => (.ok entity, c)
  | none =>
      match type.resolve with
      | .ok entity => (.ok entity, ⟨(type.typeId, entity) :: c.entities⟩)
      | .error e => (.error e, c)

/-- The number of descriptions. -/
def size (c : MappingContext) : Nat := c.entities.length

end MappingContext

end DataMapper
