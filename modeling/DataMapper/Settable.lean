import DataMapper.Value

/-!
# Settable values

A `Settable` is a value with its declared type, or an empty value of a type.
An empty value binds as a NULL of that type, so the NULL itself is never the
value of a settable.  `Settable.ofValue` turns the NULL into the empty value,
and the type carries the fact that there is no other way.
-/

namespace DataMapper

/-- A value, or nothing for the NULL. -/
def Value.present? : Value → Option Value
  | .null => none
  | value => some value

/-- What is present is not the NULL. -/
theorem Value.present?_ne_null (value : Value) : value.present? ≠ some .null := by
  cases value <;> simp [present?]

/-- A value that is not the NULL is present as it is. -/
theorem Value.present?_eq_some {value : Value} (h : value ≠ .null) :
    value.present? = some value := by
  cases value <;> first | rfl | exact absurd rfl h

/-- A value with its declared type, or an empty value of that type. -/
structure Settable where
  /-- The value, absent when empty. -/
  value : Option Value
  sqlType : SqlType
  notNull : value ≠ some .null

namespace Settable

def empty (type : SqlType) : Settable := ⟨none, type, nofun⟩

/-- A value of a type, the NULL giving the empty value. -/
def ofValue (value : Value) (type : SqlType) : Settable :=
  ⟨value.present?, type, value.present?_ne_null⟩

/-- A value of a type, its absence and the NULL giving the empty value. -/
def ofOption (value : Option Value) (type : SqlType) : Settable :=
  match value with
  | none => empty type
  | some value => ofValue value type

def isEmpty (s : Settable) : Bool := s.value.isNone

/-- Whether two settables have equal types and equal values, floating-point
numbers comparing as numbers. -/
def same (a b : Settable) : Bool :=
  a.sqlType == b.sqlType &&
    match a.value, b.value with
    | none, none => true
    | some x, some y => x.same y
    | _, _ => false

@[simp] theorem value_empty (type : SqlType) : (empty type).value = none := rfl

@[simp] theorem sqlType_empty (type : SqlType) : (empty type).sqlType = type := rfl

@[simp] theorem sqlType_ofValue (value : Value) (type : SqlType) :
    (ofValue value type).sqlType = type := rfl

/-- What a settable of a value stands for is that value. -/
@[simp] theorem getD_value_ofValue (value : Value) (type : SqlType) :
    (ofValue value type).value.getD .null = value := by
  cases value <;> rfl

/-- The NULL gives the empty value. -/
theorem ofValue_null (type : SqlType) : ofValue .null type = empty type := rfl

/-- Two settables are the same when their values and their types are. -/
theorem ext_iff {a b : Settable} : a = b ↔ a.value = b.value ∧ a.sqlType = b.sqlType := by
  cases a; cases b; simp

end Settable

end DataMapper
