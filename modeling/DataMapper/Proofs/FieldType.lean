import DataMapper.Proofs.Coercion

/-!
# Data and their values

Data of a shape are written as a value and read back from it.  `Shape.read_write`
says that nothing is lost on the way.

The leaves of a written list have the type of the items that are no lists
(`Shape.element`).  So a store whose element type this is keeps the list as it
is (`Shape.coerce_write`).
-/

namespace DataMapper

namespace Shape

/-- The shape below all lists, the shape itself when it is no list. -/
def element : Shape → Shape
  | list inner => inner.element
  | shape => shape

/-- Only 8-bit integers have 8-bit columns. -/
theorem eq_int8_of_sqlType {shape : Shape} (h : shape.sqlType = .tinyInt) : shape = .int8 := by
  cases shape <;> first | rfl | cases h

theorem write_list (inner : Shape) (items : List inner.Carrier) :
    (list inner).write items = .array (items.map inner.write) := rfl

/-- Items that are each read back are read back together. -/
theorem mapM_read_map_write {inner : Shape} (h : ∀ x, inner.read (inner.write x) = .ok x)
    (items : List inner.Carrier) : (items.map inner.write).mapM inner.read = .ok items := by
  induction items with
  | nil => rfl
  | cons item rest ih =>
      rw [List.map_cons, Outcome.mapM_cons_eq_ok]
      exact ⟨item, rest, h item, ih, rfl⟩

/-- What is written is read back. -/
theorem read_write (shape : Shape) (x : shape.Carrier) : shape.read (shape.write x) = .ok x := by
  induction shape with
  | list inner ih => exact mapM_read_map_write ih x
  | _ => rfl

/-- Written data are never the NULL. -/
theorem write_ne_null (shape : Shape) (x : shape.Carrier) : shape.write x ≠ .null := by
  cases shape <;> nofun

/-! ## Leaves -/

/-- The leaves of written data have the type of the items. -/
theorem scalarType?_of_mem_leaves (shape : Shape) (x : shape.Carrier) {leaf : Value}
    (h : leaf ∈ (shape.write x).leaves) : leaf.scalarType? = some shape.element.sqlType := by
  induction shape with
  | list inner ih =>
      change List inner.Carrier at x
      rw [write_list, Value.leaves_array, List.mem_flatMap] at h
      obtain ⟨value, hvalue, hleaf⟩ := h
      obtain ⟨item, -, rfl⟩ := List.mem_map.mp hvalue
      exact ih item hleaf
  | _ =>
      cases List.mem_singleton.mp h
      rfl

/-- Written data are leafless when they have no leaf. -/
theorem isLeafless_write (shape : Shape) (x : shape.Carrier) :
    (shape.write x).isLeafless = (shape.write x).leaves.isEmpty := by
  induction shape with
  | list inner ih =>
      change List inner.Carrier at x
      rw [write_list, Value.isLeafless, Value.areLeafless_eq, Value.leaves_array]
      induction x with
      | nil => rfl
      | cons item rest ihRest =>
          rw [List.map_cons, List.all_cons, List.flatMap_cons, ih, ihRest]
          cases (inner.write item).leaves <;> rfl
  | _ => rfl

/-- Written data with a leaf have the element type of their shape. -/
theorem elementType?_write {shape : Shape} {x : shape.Carrier}
    (h : (shape.write x).isLeafless = false) :
    (shape.write x).elementType? = some shape.element.sqlType := by
  rw [isLeafless_write, List.isEmpty_eq_false_iff] at h
  exact Value.elementType?_eq_some_iff.mpr ⟨h, fun _ leaf => scalarType?_of_mem_leaves shape x leaf⟩

/-- A store that keeps the items as they are keeps the whole. -/
theorem coerce_write (shape : Shape) (x : shape.Carrier) :
    (shape.write x).coerce shape.element.sqlType = shape.write x :=
  Value.coerce_of_leaves fun _ leaf =>
    Value.coerce_of_scalarType? (scalarType?_of_mem_leaves shape x leaf)

end Shape

namespace FieldType

/-- A field holds the NULL or data of its shape. -/
theorem write_eq (type : FieldType) (x : type.Carrier) :
    type.write x = .null ∨ ∃ y, type.write x = type.shape.write y := by
  obtain ⟨shape, nullable⟩ := type
  cases nullable with
  | false => exact .inr ⟨x, rfl⟩
  | true =>
      change Option shape.Carrier at x
      cases x with
      | none => exact .inl rfl
      | some y => exact .inr ⟨y, rfl⟩

/-- What is not the NULL is read as data that are present. -/
theorem read_of_ne_null {shape : Shape} {value : Value} (filled : value ≠ .null) :
    read ⟨shape, true⟩ value = (shape.read value).map some := by
  cases value <;> first | rfl | exact absurd rfl filled

/-- What is written for a field is read back. -/
theorem read_write (type : FieldType) (x : type.Carrier) : type.read (type.write x) = .ok x := by
  obtain ⟨shape, nullable⟩ := type
  cases nullable with
  | false => exact Shape.read_write shape x
  | true =>
      change Option shape.Carrier at x
      cases x with
      | none => rfl
      | some y =>
          change read ⟨shape, true⟩ (shape.write y) = _
          rw [read_of_ne_null (shape.write_ne_null y), Shape.read_write]
          rfl

end FieldType

end DataMapper
