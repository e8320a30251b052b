import DataMapper.Proofs.Conversion.Places
import DataMapper.Proofs.Entity.Outbound

/-!
# What a built-in dialect stores

A built-in dialect without a user's converters writes every value, so an outbound row can only
fail at a collection that holds no byte string.  In a dialect without array columns it fails
there whatever else the collection holds.  A dialect with array columns has no converters.  It
fails where the items have no type in common and the store keeps no arrays of the declared
items, which are of a custom type then.

`EntityConverter.Stores` says what a row holds for each value of a field, and
`EntityConverter.Refuses` with which error it has none.  One of them holds of every value
(`EntityConverter.stores_or_refuses`).

The data of a field type are never refused by a dialect with array columns, and one without
them refuses all collections (`FieldType.refuses_write_iff`).
-/

namespace DataMapper

/-! ## Types of data -/

namespace Shape

theorem element_sqlType (shape : Shape) : shape.sqlType.element = shape.element.sqlType := by
  induction shape with
  | list inner ih => exact ih
  | _ => rfl

/-- The items of a shape are of no custom type. -/
theorem holds_element (simple : SimpleTypes) (shape : Shape) :
    simple.holds shape.element.sqlType = true := by
  induction shape with
  | list inner ih => exact ih
  | _ => rfl

/-- The items of a list are stored under the element type of its column, whether it has a leaf
or not. -/
theorem getD_elementType?_write (shape : Shape) (x : shape.Carrier) :
    (shape.write x).elementType?.getD shape.sqlType.element = shape.sqlType.element := by
  cases leafless : (shape.write x).isLeafless with
  | false => rw [elementType?_write leafless, Option.getD_some, element_sqlType]
  | true =>
      rw [Value.elementType?_of_leaves_eq_nil (Value.leaves_of_isLeafless leafless),
        Option.getD_none]

end Shape

namespace FieldType

/-- No collection is a byte string. -/
theorem isBytes_write (type : FieldType) (collection : type.sqlType.isArray = true)
    (x : type.Carrier) : (type.write x).isBytes = false := by
  rcases type.write_eq x with absent | ⟨y, present⟩
  · rw [absent]
    rfl
  · rw [present]
    obtain ⟨shape, nullable⟩ := type
    cases shape <;> first | rfl | cases collection

theorem getD_elementType?_write (type : FieldType) (x : type.Carrier) :
    (type.write x).elementType?.getD type.sqlType.element = type.sqlType.element := by
  rcases type.write_eq x with absent | ⟨y, present⟩
  · rw [absent]
    rfl
  · rw [present]
    exact type.shape.getD_elementType?_write y

end FieldType

/-! ## Values that are present -/

namespace Value

variable {value : Value}

theorem any_present? (value : Value) : value.present?.any isBytes = value.isBytes := by
  cases value <;> rfl

theorem bind_present? (value : Value) : value.present?.bind elementType? = value.elementType? := by
  cases value <;> rfl

theorem map_present? (value : Value) : (value.present?.map depth).getD 0 = value.depth := by
  cases value <;> rfl

/-- A value with a leaf is one that is present and is no leafless array. -/
theorem filter_present? (value : Value) :
    (value.present?.filter fun value => !value.isLeafless)
      = if value.isNull || value.isLeafless then none else some value := by
  cases value with
  | array items =>
      change (some (array items)).filter _ = if (array items).isLeafless = true then _ else _
      rw [Option.filter_some]
      cases (array items).isLeafless <;> rfl
  | _ => rfl

/-- An absent value has no leaves either. -/
theorem leaves_of_nothing (nothing : (value.isNull || value.isLeafless) = true) :
    value.leaves = [] := by
  cases leafless : value.isLeafless with
  | true => exact leaves_of_isLeafless leafless
  | false =>
      rw [leafless, Bool.or_false] at nothing
      cases value <;> first | rfl | cases nothing

end Value

/-! ## Types of items -/

/-- An array type is no type of byte strings. -/
theorem SqlType.isBinary_of_isArray {type : SqlType} (array : type.isArray = true) :
    type.isBinary = false := by
  cases type <;> first | rfl | cases array

/-- The types of scalars are simple. -/
theorem SimpleTypes.holds_of_elementType? (simple : SimpleTypes) {value : Value} {type : SqlType}
    (common : value.elementType? = some type) : simple.holds type = true := by
  obtain ⟨filled, alike⟩ := Value.elementType?_eq_some_iff.mp common
  obtain ⟨leaf, hleaf⟩ := List.exists_mem_of_ne_nil _ filled
  have own := alike leaf hleaf
  cases leaf <;> cases own <;> rfl

/-- A dialect with array columns keeps the items of a value, unless they have no type in common
and arrays of the declared items are not kept. -/
theorem Dialect.exists_storeElement_getD {d : Dialect} (supported : d.arrays.supported = true)
    {value : Value} {declared : SqlType}
    (kept : value.elementType? = none → d.arrays.simple.holds declared = true) :
    ∃ store, d.storeElement (value.elementType?.getD declared) = .ok store := by
  refine ⟨_, ArrayColumns.storeElement_eq_ok_iff.mpr ⟨supported, ?_, rfl⟩⟩
  cases common : value.elementType? with
  | none => exact kept common
  | some type => exact d.arrays.simple.holds_of_elementType? common

/-! ## Stored values -/

namespace EntityConverter

variable {c : EntityConverter} {p : Property} {value : Value}

/-- The converter of a dialect without a user's converters. -/
def ofDialect (d : Dialect) : EntityConverter := ⟨d.conversions [], d⟩

/-- What a row holds for a value of a declared type. -/
inductive Stores (c : EntityConverter) (declared : SqlType) (value : Value) : Settable → Prop where
  /-- Outside collections, what the registry writes.  It is typed by itself when a converter
  accepted the value, and as declared otherwise. -/
  | scalar {written : Value} (single : declared.isArray = false)
      (writes : c.conversions.writeValue value = .ok written) :
      Stores c declared value
        (.ofValue written (writtenType (c.conversions.hasWriter value) written declared))
  /-- For a collection that holds a byte string, that as it is. -/
  | bytes (collection : declared.isArray = true) (whole : value.isBytes = true) :
      Stores c declared value (.ofValue value declared)
  /-- For a collection that is absent or has no leaf, the NULL of the array type of the store
  that is as deep as the declared type, or as the value when that is deeper. -/
  | leafless {store : SqlType} (collection : declared.isArray = true)
      (nothing : (value.isNull || value.isLeafless) = true)
      (items : c.dialect.storeElement declared.element = .ok store) :
      Stores c declared value (.empty (store.wrap (max value.depth declared.dimensions)))
  /-- For any other collection, what the registry writes with its items widened for the store. -/
  | filled {written : Value} {store : SqlType} (collection : declared.isArray = true)
      (parts : value.isBytes = false) (leaf : (value.isNull || value.isLeafless) = false)
      (writes : c.conversions.writeValue value = .ok written)
      (items : c.dialect.storeElement (written.elementType?.getD declared.element) = .ok store) :
      Stores c declared value (.ofValue (written.coerce store) store)

/-- With which error a row has no place for a value of a declared type. -/
inductive Refuses (c : EntityConverter) (declared : SqlType) (value : Value) : Error → Prop where
  /-- There are no array columns, and a collection holds no byte string. -/
  | noArrays (collection : declared.isArray = true) (parts : value.isBytes = false)
      (unsupported : c.dialect.arrays.supported = false) : Refuses c declared value c.noArrays
  /-- The store keeps no arrays of the declared items, and what the registry writes for a
  collection is no byte string and has no type of items. -/
  | items {written : Value} (collection : declared.isArray = true) (parts : value.isBytes = false)
      (supported : c.dialect.arrays.supported = true)
      (writes : c.conversions.writeValue value = .ok written)
      (untyped : written.elementType? = none)
      (foreign : c.dialect.arrays.simple.holds declared.element = false) :
      Refuses c declared value (.unsupported (.arraysOf declared.element) c.dialect.name)

/-- An array has the type of its property. -/
theorem writtenType_array (accepted : Bool) (items : List Value) (declared : SqlType) :
    writtenType accepted (.array items) declared = declared := by
  rw [writtenType]
  cases (Value.array items).sqlType? with
  | none => rfl
  | some type => simp [Value.isArray]

/-- What was written is typed as a byte string only when it is one or is declared as one. -/
theorem isBinary_writtenType {accepted : Bool} {written : Value} {declared : SqlType}
    (collection : declared.isArray = true) (parts : written.isBytes = false) :
    (writtenType accepted written declared).isBinary = false := by
  have array := SqlType.isBinary_of_isArray collection
  cases written with
  | array items => rw [writtenType_array, array]
  | bytes data => cases parts
  | _ => cases accepted <;> first | rfl | exact array

/-- A dialect without array columns keeps no element type, and the error is the same. -/
theorem noArrays_or_map (element : SqlType) (f : SqlType → Settable) :
    (if !c.dialect.arrays.supported then .error c.noArrays
      else (c.dialect.storeElement element).map f) = (c.dialect.storeElement element).map f := by
  rw [Dialect.storeElement, ArrayColumns.storeElement]
  cases c.dialect.arrays.supported <;> rfl

/-- What becomes of a collection that is no byte string depends on its leaves and on the element
type of the store. -/
theorem arrayValue_ofValue {slot : SqlType} (binary : slot.isBinary = false)
    (parts : value.isBytes = false) :
    c.arrayValue (.ofValue value slot) p =
      (c.dialect.storeElement (value.elementType?.getD p.itemType)).map fun store =>
        if value.isNull || value.isLeafless then
          .empty (store.wrap (max (max value.depth p.sqlType.dimensions) 1))
        else .ofValue (value.coerce store) store := by
  have held : (Settable.ofValue value slot).value = value.present? := rfl
  rw [← noArrays_or_map, arrayValue, Settable.sqlType_ofValue, binary, held, Value.any_present?,
    parts, Value.bind_present?, Value.map_present?, Value.filter_present?, Bool.or_self,
    if_neg Bool.false_ne_true]
  cases c.dialect.storeElement (value.elementType?.getD p.itemType) with
  | error refused => rfl
  | ok store => cases value.isNull || value.isLeafless <;> rfl

/-- What a row holds for a collection depends on what was written for it and on the element type
of the store. -/
theorem outboundValue_eq {written : Value} (collection : p.isCollection = true)
    (parts : written.isBytes = false) (writes : c.conversions.writeValue value = .ok written) :
    c.outboundValue p value =
      (c.dialect.storeElement (written.elementType?.getD p.itemType)).map fun store =>
        if written.isNull || written.isLeafless then
          .empty (store.wrap (max written.depth p.sqlType.dimensions))
        else .ofValue (written.coerce store) store := by
  -- A collection has dimensions, so the least depth of one adds nothing.
  have deep : max (max written.depth p.sqlType.dimensions) 1
      = max written.depth p.sqlType.dimensions := by
    have dimensions := of_decide_eq_true (p.sqlType.isArray_eq.symm.trans collection)
    omega
  have binary : (writtenType (c.conversions.hasWriter value) written p.sqlType).isBinary = false :=
    isBinary_writtenType collection parts
  rw [outboundValue, writeProperty, writes]
  change (if p.isCollection then c.arrayValue _ p else _) = _
  rw [collection, if_pos rfl, arrayValue_ofValue binary parts, deep]

variable {d : Dialect}

/-- In a built-in dialect, a byte string is stored as it is, in a collection too. -/
theorem outboundValue_of_isBytes (builtIn : d ∈ Dialect.builtIn) (whole : value.isBytes = true) :
    (ofDialect d).outboundValue p value = .ok (.ofValue value p.sqlType) := by
  cases value with
  | bytes data =>
      obtain ⟨written, writes⟩ := Dialect.writesAll builtIn (.bytes data)
      have here : (ofDialect d).conversions.writeValue (.bytes data) = .ok written := writes
      cases Dialect.storedAs_of_writeValue builtIn writes with
      | scalar _ plain =>
          have unaccepted : (ofDialect d).conversions.hasWriter (.bytes data) = false := plain
          rw [outboundValue, writeProperty, here, unaccepted]
          change (if p.isCollection then
            (ofDialect d).arrayValue (.ofValue (.bytes data) p.sqlType) p else _) = _
          cases p.isCollection with
          | false => rfl
          | true =>
              rw [if_pos rfl, arrayValue, Settable.sqlType_ofValue]
              exact if_pos (Bool.or_true _)
  | _ => cases whole

/-- What a built-in dialect refuses has no place in a row. -/
theorem outboundValue_of_refuses (builtIn : d ∈ Dialect.builtIn) {e : Error}
    (refused : (ofDialect d).Refuses p.sqlType value e) :
    (ofDialect d).outboundValue p value = .error e := by
  cases refused with
  | noArrays collection parts unsupported =>
      obtain ⟨written, writes⟩ := Dialect.writesAll builtIn value
      have still := (Dialect.storedAs_of_writeValue builtIn writes).isBytes_eq.trans parts
      rw [outboundValue_eq collection still writes, Dialect.storeElement,
        ArrayColumns.storeElement, unsupported]
      rfl
  | items collection parts supported writes untyped foreign =>
      have still := (Dialect.storedAs_of_writeValue builtIn writes).isBytes_eq.trans parts
      rw [outboundValue_eq collection still writes, untyped, Option.getD_none,
        Dialect.storeElement, ArrayColumns.storeElement, supported, Property.itemType, foreign]
      rfl

/-- A dialect with array columns writes an absent value, and one without leaves, as it is. -/
theorem keeps_of_nothing (builtIn : d ∈ Dialect.builtIn) (supported : d.arrays.supported = true)
    (nothing : (value.isNull || value.isLeafless) = true) :
    (ofDialect d).conversions.Keeps value := by
  have plain := Dialect.converters_of_supported builtIn supported
  refine Conversions.keeps_of_leaves plain fun typeName variant hleaf => ?_
  rw [Value.leaves_of_nothing nothing] at hleaf
  cases hleaf

/-- A built-in dialect with array columns stores a collection that it keeps the items of. -/
theorem exists_outboundValue_collection (builtIn : d ∈ Dialect.builtIn)
    (collection : p.isCollection = true) (parts : value.isBytes = false) {written : Value}
    (writes : (ofDialect d).conversions.writeValue value = .ok written) {store : SqlType}
    (items : d.storeElement (written.elementType?.getD p.sqlType.element) = .ok store) :
    ∃ stored, (ofDialect d).outboundValue p value = .ok stored ∧
      (ofDialect d).Stores p.sqlType value stored := by
  have storedAs := Dialect.storedAs_of_writeValue builtIn writes
  have outbound := outboundValue_eq collection (storedAs.isBytes_eq.trans parts) writes
  obtain ⟨supported, -⟩ := ArrayColumns.storeElement_eq_ok_iff.mp items
  have kept : (ofDialect d).dialect.storeElement (written.elementType?.getD p.itemType)
      = .ok store := items
  rw [kept] at outbound
  refine ⟨_, outbound, ?_⟩
  cases nothing : value.isNull || value.isLeafless with
  | true =>
      cases writes.symm.trans (keeps_of_nothing builtIn supported nothing)
      rw [Value.elementType?_of_leaves_eq_nil (Value.leaves_of_nothing nothing)] at items
      rw [nothing]
      exact .leafless collection nothing items
  | false =>
      have leaf : (written.isNull || written.isLeafless) = false := by
        rw [← nothing, storedAs.isNull_eq,
          Conversions.isLeafless_of_writeValue (Dialect.storedAs_of_writeValue builtIn) writes]
      rw [leaf]
      exact .filled collection parts nothing writes items

/-- In a built-in dialect, a value is stored or refused. -/
theorem stores_or_refuses (builtIn : d ∈ Dialect.builtIn) (p : Property) (value : Value) :
    (∃ stored, (ofDialect d).outboundValue p value = .ok stored ∧
        (ofDialect d).Stores p.sqlType value stored) ∨
      ∃ e, (ofDialect d).Refuses p.sqlType value e := by
  obtain ⟨written, writes⟩ := Dialect.writesAll builtIn value
  have here : (ofDialect d).conversions.writeValue value = .ok written := writes
  cases collection : p.isCollection with
  | false =>
      refine .inl ⟨_, ?_, .scalar collection here⟩
      rw [outboundValue, writeProperty, here, collection]
      rfl
  | true =>
      cases parts : value.isBytes with
      | true =>
          exact .inl ⟨_, outboundValue_of_isBytes builtIn parts, .bytes collection parts⟩
      | false =>
          cases supported : d.arrays.supported with
          | false => exact .inr ⟨_, .noArrays collection parts supported⟩
          | true =>
              by_cases kept : written.elementType? = none →
                  d.arrays.simple.holds p.sqlType.element = true
              · obtain ⟨store, items⟩ := Dialect.exists_storeElement_getD supported kept
                exact .inl (exists_outboundValue_collection builtIn collection parts here items)
              · obtain ⟨untyped, foreign⟩ := Classical.not_imp.mp kept
                have foreign := Bool.eq_false_iff.mpr foreign
                exact .inr ⟨_, .items collection parts supported here untyped foreign⟩

/-- What a row of a built-in dialect holds for a value is what the dialect stores. -/
theorem stores_of_outboundValue (builtIn : d ∈ Dialect.builtIn) {stored : Settable}
    (h : (ofDialect d).outboundValue p value = .ok stored) :
    (ofDialect d).Stores p.sqlType value stored := by
  obtain ⟨settable, same, stores⟩ | ⟨e, refused⟩ := stores_or_refuses builtIn p value
  · cases h.symm.trans same
    exact stores
  · cases h.symm.trans (outboundValue_of_refuses builtIn refused)

/-- A registry that writes every value writes those of all properties. -/
theorem exists_written (writes : c.conversions.WritesAll) (value : String → Value)
    (properties : List Property) : ∃ written, c.Written value properties written := by
  induction properties with
  | nil => exact ⟨[], .nil⟩
  | cons p rest ih =>
      obtain ⟨stored, hstored⟩ := writes (value p.name)
      obtain ⟨written, hwritten⟩ := ih
      have first : c.writeProperty p (value p.name)
          = .ok (.ofValue stored
            (writtenType (c.conversions.hasWriter (value p.name)) stored p.sqlType)) := by
        rw [writeProperty, hstored]
        rfl
      exact ⟨(p.column, _) :: written, .cons ⟨rfl, first⟩ hwritten⟩

end EntityConverter

/-- The data of a field type are refused exactly when they are a collection and there are no
array columns. -/
theorem FieldType.refuses_write_iff {c : EntityConverter} (type : FieldType) (x : type.Carrier)
    {e : Error} : c.Refuses type.sqlType (type.write x) e ↔
      type.sqlType.isArray = true ∧ c.dialect.arrays.supported = false ∧ e = c.noArrays := by
  constructor
  · intro refused
    cases refused with
    | noArrays collection _ unsupported => exact ⟨collection, unsupported, rfl⟩
    | items _ _ _ _ _ foreign =>
        rw [sqlType, Shape.element_sqlType, Shape.holds_element] at foreign
        cases foreign
  · rintro ⟨collection, unsupported, rfl⟩
    exact .noArrays collection (type.isBytes_write collection x) unsupported

end DataMapper
