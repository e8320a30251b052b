import DataMapper.Dialect
import DataMapper.Entity

/-!
# Values as a store takes them

An `EntityConverter` is a dialect with a registry of converters.  It brings
single values into the form in which a driver binds them.

* `EntityConverter.bindValue` is for a value with a slot of a declared type.  The
  value goes through the write converters.  An array in an array slot is widened
  to the element type of the store and typed as an array of it.  What a converter
  accepted is typed by what became of it, and everything else keeps its slot.
* `EntityConverter.arrayValue` is for a value of a collection property that went
  through the converters before.  An absent collection, and one without leaves,
  becomes the NULL of an array type at least as deep as the property's.  The
  others are widened and typed by the element type of the store.  Byte strings
  stay as they are.

`Value.coerce` widens the integers of an array to the element type of a store,
and leaves what is as wide already or is no integer.
-/

namespace DataMapper

mutual

/-- A value with its integers widened to an element type. -/
def Value.coerce (store : SqlType) : Value → Value
  | .array items => .array (Value.coerceItems store items)
  | .tinyInt n =>
      match store with
      | .smallInt => .smallInt n.toInt16
      | .integer => .int n.toInt32
      | _ => .tinyInt n
  | .smallInt n =>
      match store with
      | .integer => .int n.toInt32
      | _ => .smallInt n
  | .int n =>
      match store with
      | .bigInt => .bigInt n.toInt64
      | _ => .int n
  | value => value

/-- The items of an array with their integers widened to an element type. -/
def Value.coerceItems (store : SqlType) : List Value → List Value
  | [] => []
  | item :: rest => item.coerce store :: Value.coerceItems store rest

end

/-- Items are widened one by one. -/
theorem Value.coerceItems_eq (store : SqlType) (items : List Value) :
    Value.coerceItems store items = items.map (Value.coerce store) := by
  induction items with
  | nil => rfl
  | cons item rest ih => simp [Value.coerceItems, ih]

/-- A registry of converters with the dialect values are brought to. -/
structure EntityConverter where
  conversions : Conversions
  dialect : Dialect

namespace EntityConverter

/-- The error of arrays in a dialect without them. -/
def noArrays (c : EntityConverter) : Error := .unsupported .arrayColumns c.dialect.name

/-- The type of a written value: its own when a converter accepted the value
before and it is no array, otherwise the declared one. -/
def writtenType (accepted : Bool) (written : Value) (declared : SqlType) : SqlType :=
  match written.sqlType? with
  | some type => if accepted && !written.isArray then type else declared
  | none => declared

/-- A settable as a driver binds it. -/
def bindValue (c : EntityConverter) (s : Settable) : Except Error Settable :=
  match s.value with
  | none => .ok s
  | some raw => do
      let written ← c.conversions.writeValue raw
      if written.isArray && s.sqlType.isArray then
        if !c.dialect.arrays.supported then .error c.noArrays
        else do
          let store ← c.dialect.storeElement (written.elementType?.getD s.sqlType.element)
          .ok (.ofValue (written.coerce store)
            (store.wrap (max written.depth s.sqlType.dimensions)))
      else .ok (.ofValue written (writtenType (c.conversions.hasWriter raw) written s.sqlType))

/-- A written value of a collection property as a driver binds it. -/
def arrayValue (c : EntityConverter) (s : Settable) (property : Property) :
    Except Error Settable :=
  if s.sqlType.isBinary || s.value.any Value.isBytes then .ok s
  else if !c.dialect.arrays.supported then .error c.noArrays
  else do
    let store ← c.dialect.storeElement ((s.value.bind Value.elementType?).getD property.itemType)
    let depth := max (max ((s.value.map Value.depth).getD 0) property.sqlType.dimensions) 1
    match s.value.filter fun value => !value.isLeafless with
    | none => .ok (.empty (store.wrap depth))
    | some value => .ok (.ofValue (value.coerce store) store)

end EntityConverter

end DataMapper
