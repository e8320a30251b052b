import DataMapper.Definition
import DataMapper.Proofs.Entity.Reading
import DataMapper.Proofs.Entity.Stored
import DataMapper.Proofs.Strategy

/-!
# Reading back what was written

An instance is written to an outbound row, the row is given back by the driver
with the NULL for each empty value, and an instance is read from it.

A collection without leaves is written as the NULL of an array type, and so is an
absent one.  The NULL reads as an absent collection where the field may be absent
and does not read at all where it may not.  Everything else is read back as it
was: what converters made of a value they undo, and arrays keep their items, for
no field has lists of 8-bit integers, which are the only ones a store widens.

`Value.readBack` is what becomes of a value, and `Strategy.read_readBack` says
that this is all that happens.
-/

namespace DataMapper

/-- A value after a trip through an outbound row. -/
def Value.readBack (value : Value) : Value := if value.isLeafless then .null else value

/-- A value with a leaf is given back as it was. -/
theorem Value.readBack_of_leaf {value : Value} (leaf : value.isLeafless = false) :
    value.readBack = value := by
  rw [readBack, leaf]
  rfl

/-- An absent value, and one without leaves, is given back as the NULL. -/
theorem Value.readBack_of_nothing {value : Value}
    (nothing : (value.isNull || value.isLeafless) = true) : value.readBack = .null := by
  rw [readBack]
  cases leafless : value.isLeafless with
  | true => rfl
  | false =>
      rw [leafless, Bool.or_false] at nothing
      cases value <;> first | rfl | cases nothing

/-- Whether the items of a list are 8-bit integers.  No field is declared with such
a list. -/
def Shape.hasInt8Items : Shape → Bool
  | list inner => inner.element == .int8
  | _ => false

/-! ## Fields -/

namespace FieldType

/-- Leafless data are a list, and a list does not read the NULL. -/
theorem read_null_of_isLeafless {shape : Shape} {x : shape.Carrier}
    (h : (shape.write x).isLeafless = true) : ∃ error, shape.read .null = .error error := by
  cases shape with
  | list inner => exact ⟨_, rfl⟩
  | _ => cases h

/-- A field reads a value back, unless that is a collection without leaves and the
field cannot be absent. -/
theorem normalise_readBack (type : FieldType) (x : type.Carrier) (value : Value) :
    type.codec.normalise (type.write x).readBack = .ok value ↔
      (type.nullable = false → (type.write x).isLeafless = false) ∧
        value = (type.write x).readBack := by
  cases leafless : (type.write x).isLeafless with
  | false =>
      have kept : type.codec.normalise (type.write x) = .ok (type.write x) := by
        change (type.read (type.write x)).map type.write = _
        rw [read_write]
        rfl
      rw [Value.readBack_of_leaf leafless, kept, Except.ok.injEq]
      exact ⟨fun h => ⟨fun _ => rfl, h.symm⟩, fun h => h.2.symm⟩
  | true =>
      have gone : (type.write x).readBack = .null := by
        rw [Value.readBack, leafless]
        rfl
      rw [gone]
      obtain ⟨shape, nullable⟩ := type
      cases nullable with
      | false =>
          obtain ⟨error, herror⟩ := read_null_of_isLeafless leafless
          have failed : (codec ⟨shape, false⟩).normalise .null = .error error := by
            change (shape.read .null).map _ = _
            rw [herror]
            rfl
          rw [failed]
          exact ⟨nofun, fun h => nomatch h.1 rfl⟩
      | true =>
          have absent : (codec ⟨shape, true⟩).normalise .null = .ok .null := rfl
          rw [absent, Except.ok.injEq]
          exact ⟨fun h => ⟨nofun, h.symm⟩, fun h => h.2.symm⟩

/-- What is no collection is given back as it was. -/
theorem readBack_of_single (type : FieldType) (single : type.sqlType.isArray = false)
    (x : type.Carrier) : (type.write x).readBack = type.write x := by
  apply Value.readBack_of_leaf
  rcases type.write_eq x with absent | ⟨y, present⟩
  · rw [absent]
    rfl
  · rw [present]
    obtain ⟨shape, nullable⟩ := type
    cases shape <;> first | rfl | cases single

/-- A store that keeps the items of a field as they are keeps its value. -/
theorem coerce_write (type : FieldType) (x : type.Carrier) :
    (type.write x).coerce type.sqlType.element = type.write x := by
  rcases type.write_eq x with absent | ⟨y, present⟩
  · rw [absent]
    rfl
  · rw [present, sqlType, Shape.element_sqlType]
    exact type.shape.coerce_write y

/-- A list without 8-bit integers has no column of such items. -/
theorem element_ne_tinyInt (type : FieldType) (wide : type.shape.hasInt8Items = false)
    (collection : type.sqlType.isArray = true) : type.sqlType.element ≠ .tinyInt := by
  obtain ⟨shape, nullable⟩ := type
  cases shape with
  | list inner =>
      intro narrow
      have items : inner.element.sqlType = .tinyInt := by
        rw [← Shape.element_sqlType]
        exact narrow
      exact ne_of_beq_false wide (Shape.eq_int8_of_sqlType items)
  | _ => cases collection

end FieldType

/-! ## Values of an outbound row -/

namespace EntityConverter

variable {d : Dialect}

/-- What a built-in dialect stores for a value is read back. -/
theorem readValue_of_stores (builtIn : d ∈ Dialect.builtIn) {type : FieldType}
    (wide : type.shape.hasInt8Items = false) (x : type.Carrier) {stored : Settable}
    (h : (ofDialect d).Stores type.sqlType (type.write x) stored) :
    (d.conversions []).readValue (stored.value.getD .null) type.sqlType
      = .ok (type.write x).readBack := by
  obtain ⟨written, hwritten, back⟩ :=
    Conversions.readsBack_of_hasType (Dialect.readsBack_scalar builtIn) (type.hasType_write x)
  cases h with
  | scalar single writes =>
      rw [Settable.getD_value_ofValue, type.readBack_of_single single]
      cases hwritten.symm.trans writes
      exact back
  | bytes collection whole =>
      rw [type.isBytes_write collection x] at whole
      cases whole
  | leafless collection nothing items =>
      rw [Value.readBack_of_nothing nothing]
      rfl
  | filled collection parts leaf writes items =>
      obtain ⟨supported, -⟩ := ArrayColumns.storeElement_eq_ok_iff.mp items
      have none := Dialect.converters_of_supported builtIn supported
      have same := Conversions.writeValue_of_hasType none (type.hasType_write x)
      cases writes.symm.trans same
      cases hwritten.symm.trans same
      rw [type.getD_elementType?_write] at items
      have store := (ArrayColumns.storeElement_cases items).resolve_right fun narrow =>
        type.element_ne_tinyInt wide collection narrow.1
      have filled : (type.write x).isLeafless = false := (Bool.or_eq_false_iff.mp leaf).2
      rw [Settable.getD_value_ofValue, store, type.coerce_write, Value.readBack_of_leaf filled]
      exact back

/-! ## Rows -/

variable {c : EntityConverter} {value back : String → Value}

/-- Entries of an outbound row have the columns of the properties. -/
theorem names_of_outbound {properties : List Property} {entries : List (Identifier × Settable)}
    (h : c.Outbound value properties entries) :
    entries.map (fun entry => entry.1.name) = properties.map fun p => p.column.name := by
  induction h with
  | nil => rfl
  | cons hentry _ ih => rw [List.map_cons, List.map_cons, hentry.1, ih]

/-- A row that is given back has a column for each property. -/
theorem columns_readBack {properties : List Property} {row : OutboundRow}
    (h : c.Outbound value properties row.entries) :
    row.readBack.columns = columnsOf properties := by
  rw [OutboundRow.readBack, OutboundRow.columns, List.map_map, columnsOf, ← names_of_outbound h]
  rfl

/-- Entries whose values are read back one by one are read back together. -/
theorem readsAs_readBack {properties : List Property} {entries : List (Identifier × Settable)}
    (h : c.Outbound value properties entries)
    (each : ∀ p ∈ properties, ∀ stored, c.outboundValue p (value p.name) = .ok stored →
      c.conversions.readValue (stored.value.getD .null) p.sqlType = .ok (back p.name)) :
    c.ReadsAs back properties (entries.map fun entry => entry.2.value.getD .null) := by
  induction h with
  | nil => exact .nil
  | @cons p entry _ _ hentry _ ih =>
      obtain ⟨first, later⟩ := List.forall_mem_cons.mp each
      exact .cons (first entry.2 hentry.2) (ih later)

end EntityConverter

/-! ## Entities -/

namespace EntityDefinition

/-- An instance with given data in its persistent fields. -/
def instanceOf (definition : EntityDefinition) (codecOf : String → Codec)
    (data : (name : String) → (codecOf name).Carrier) (transient : List (String × Value)) :
    Instance :=
  ⟨definition.persistentFields.map fun f => (f.name, (codecOf f.name).write (data f.name)),
    transient⟩

/-- The values of the persistent fields after a trip through an outbound row. -/
def valuesBack (definition : EntityDefinition) (typeOf : String → FieldType)
    (data : (name : String) → (typeOf name).Carrier) : List (String × Value) :=
  definition.persistentFields.map fun f =>
    (f.name, ((typeOf f.name).write (data f.name)).readBack)

/-- Whether the fields of a definition are what a declared type can have, with
columns that differ in more than the case of ASCII letters. -/
structure IsDeclared (definition : EntityDefinition) (typeOf : String → FieldType) : Prop where
  names : (definition.persistentFields.map FieldDefinition.name).Nodup
  labels : (definition.persistentFields.map fun f => Text.foldLabel f.column).Nodup
  items : ∀ f ∈ definition.persistentFields, (typeOf f.name).shape.hasInt8Items = false

variable {definition : EntityDefinition} {codecOf : String → Codec} {typeOf : String → FieldType}
  {ref : TypeRef} {transients : List (String × Value)}

theorem properties_describe (definition : EntityDefinition) (ref : TypeRef)
    (codecOf : String → Codec) (transients : List (String × Value)) :
    (definition.entityType ref codecOf transients).describe.properties
      = definition.persistentFields.map fun f => (f.field (codecOf f.name)).toProperty := by
  rw [EntityType.describe, entityType, List.map_map]
  rfl

/-- An instance with given data holds the value of each property. -/
theorem properties_instanceOf (data : (name : String) → (codecOf name).Carrier)
    (transient : List (String × Value)) :
    (definition.instanceOf codecOf data transient).properties
      = (definition.entityType ref codecOf transients).describe.properties.map fun p =>
        (p.name, (codecOf p.name).write (data p.name)) := by
  rw [properties_describe, List.map_map]
  rfl

theorem IsDeclared.distinct (h : definition.IsDeclared typeOf) :
    (definition.entityType ref codecOf transients).describe.Distinct := by
  constructor
  · rw [properties_describe, List.map_map]
    exact h.names
  · rw [properties_describe, List.map_map]
    exact h.labels

/-- A field that was given back a value reads it, unless it cannot be absent and
was given the NULL for a collection. -/
theorem readField_readBack {values : PropertyValues} {f : FieldDefinition} {type : FieldType}
    {x : type.Carrier} (given : values.get f.name = (type.write x).readBack)
    (q : String × Value) :
    EntityType.readField values (f.field type.codec) = .ok q ↔
      (type.nullable = false → (type.write x).isLeafless = false) ∧
        q = (f.name, (type.write x).readBack) := by
  have read : EntityType.readField values (f.field type.codec)
      = (atColumn f.name (type.codec.normalise (values.get f.name))).map
        fun value => (f.name, value) := rfl
  rw [read, given, Outcome.map_eq_ok]
  constructor
  · rintro ⟨value, hvalue, rfl⟩
    obtain ⟨filled, rfl⟩ :=
      (type.normalise_readBack x value).mp (Outcome.atColumn_eq_ok.mp hvalue)
    exact ⟨filled, rfl⟩
  · rintro ⟨filled, rfl⟩
    have kept := (type.normalise_readBack x _).mpr ⟨filled, rfl⟩
    exact ⟨_, Outcome.atColumn_eq_ok.mpr kept, rfl⟩

theorem get_valuesBack (data : (name : String) → (typeOf name).Carrier) {f : FieldDefinition}
    (h : f ∈ definition.persistentFields) :
    PropertyValues.get ⟨definition.valuesBack typeOf data⟩ f.name
      = ((typeOf f.name).write (data f.name)).readBack := by
  have named := lookup_map_of_mem (fun name => ((typeOf name).write (data name)).readBack)
    (List.mem_map_of_mem (f := FieldDefinition.name) h)
  rw [List.map_map] at named
  exact congrArg (Option.getD · .null) named

/-- Properties that were given back make an instance, unless some field cannot be
absent and was given the NULL for a collection. -/
theorem ofProperties_valuesBack (data : (name : String) → (typeOf name).Carrier) (j : Instance) :
    (definition.entityType ref (FieldType.codecs typeOf) transients).ofProperties
        ⟨definition.valuesBack typeOf data⟩ = .ok j ↔
      (∀ f ∈ definition.persistentFields, (typeOf f.name).nullable = false →
        ((typeOf f.name).write (data f.name)).isLeafless = false) ∧
      j = ⟨definition.valuesBack typeOf data, transients⟩ := by
  have each (f : FieldDefinition) (h : f ∈ definition.persistentFields) (q : String × Value) :=
    readField_readBack (get_valuesBack data h) q
  rw [EntityType.ofProperties, Outcome.map_eq_ok, entityType, List.mapM_map]
  constructor
  · rintro ⟨properties, h, rfl⟩
    obtain ⟨filled, rfl⟩ := (Outcome.mapM_eq_ok_iff each).mp h
    exact ⟨filled, rfl⟩
  · rintro ⟨filled, rfl⟩
    exact ⟨_, (Outcome.mapM_eq_ok_iff each).mpr ⟨filled, rfl⟩, rfl⟩

/-- In a built-in dialect, the row of an instance is read as the values that are
given back. -/
theorem readProperties_readBack {d : Dialect} (builtIn : d ∈ Dialect.builtIn)
    (declared : definition.IsDeclared typeOf) (data : (name : String) → (typeOf name).Carrier)
    {transient : List (String × Value)} {row : OutboundRow}
    (h : (EntityConverter.ofDialect d).outboundRow
      (definition.entityType ref (FieldType.codecs typeOf) transients).describe
      (definition.instanceOf (FieldType.codecs typeOf) data transient) = .ok row) :
    (EntityConverter.ofDialect d).readProperties
        (definition.entityType ref (FieldType.codecs typeOf) transients).describe row.readBack
      = .ok ⟨definition.valuesBack typeOf data⟩ := by
  have properties := properties_describe definition ref (FieldType.codecs typeOf) transients
  have held := @properties_instanceOf definition (FieldType.codecs typeOf) ref transients data
    transient
  have outbound := EntityConverter.entries_of_outboundRow declared.distinct.apart
    (fun name => (typeOf name).write (data name)) held h
  have reads : (EntityConverter.ofDialect d).ReadsAs
      (fun name => ((typeOf name).write (data name)).readBack)
      (definition.entityType ref (FieldType.codecs typeOf) transients).describe.properties
      row.readBack.values := by
    refine EntityConverter.readsAs_readBack outbound fun p hp stored hstored => ?_
    rw [properties] at hp
    obtain ⟨f, hf, rfl⟩ := List.mem_map.mp hp
    exact EntityConverter.readValue_of_stores builtIn (declared.items f hf) _
      (EntityConverter.stores_of_outboundValue builtIn hstored)
  rw [EntityConverter.readProperties_eq declared.distinct
    (EntityConverter.columns_readBack outbound) reads, properties, List.map_map]
  rfl

end EntityDefinition

namespace Strategy

variable {definition : EntityDefinition} {typeOf : String → FieldType} {ref : TypeRef}
  {transients : List (String × Value)}

/-- In a built-in dialect without a user's converters, an instance that was written
to an outbound row is read back from it, unless some field that cannot be absent
holds a collection without leaves.  Then each field holds what it held, but for
collections without leaves, which are absent, and the transient fields are those
of a new instance. -/
theorem read_readBack {s after : Strategy} (builtIn : s.dialect ∈ Dialect.builtIn)
    (plain : s.conversions = s.dialect.conversions [])
    (known : s.context.Knows (definition.entityType ref (FieldType.codecs typeOf) transients))
    (declared : definition.IsDeclared typeOf) (data : (name : String) → (typeOf name).Carrier)
    {transient : List (String × Value)} {row : OutboundRow}
    (h : s.outboundRow (definition.entityType ref (FieldType.codecs typeOf) transients)
      (definition.instanceOf (FieldType.codecs typeOf) data transient) = (.ok row, after)) (j : Instance) :
    (after.read (definition.entityType ref (FieldType.codecs typeOf) transients) row.readBack).1 = .ok j ↔
      (∀ f ∈ definition.persistentFields, (typeOf f.name).nullable = false →
        ((typeOf f.name).write (data f.name)).isLeafless = false) ∧
      j = ⟨definition.valuesBack typeOf data, transients⟩ := by
  obtain ⟨hrow, same, found⟩ := withEntity_eq_ok known h
  have converter : s.converter = .ofDialect s.dialect := by
    rw [Strategy.converter, plain]
    rfl
  rw [converter] at hrow
  rw [read, withEntity_of_find? _ found, same, converter, EntityConverter.read,
    EntityDefinition.readProperties_readBack builtIn declared data hrow]
  exact Outcome.mapError_eq_ok.trans (EntityDefinition.ofProperties_valuesBack data j)

/-- An entity with an absent collection, one without leaves and one with a leaf. -/
theorem read_readBack_collections :
    let s := Strategy.new .postgres [] .empty 0
    let definition : EntityDefinition := ⟨"Grids", "grids", false, false,
      [⟨"a", "A", true, false, false⟩, ⟨"b", "b", false, true, false⟩,
        ⟨"dirty", "dirty", false, false, true⟩, ⟨"c", "b_c", false, false, false⟩]⟩
    let typeOf : String → FieldType := fun _ => ⟨.list (.list .int32), true⟩
    let data : (name : String) → (typeOf name).Carrier := fun name =>
      if name = "a" then none else if name = "b" then some [[], []] else some [[(1 : Int32)], []]
    let type := definition.entityType ⟨⟨0⟩, "Grids"⟩ (FieldType.codecs typeOf) [("dirty", .bool false)]
    ∃ row after, s.dialect ∈ Dialect.builtIn ∧ s.conversions = s.dialect.conversions [] ∧
      s.context.Knows type ∧ definition.IsDeclared typeOf ∧
      s.outboundRow type (definition.instanceOf (FieldType.codecs typeOf) data [("dirty", .bool true)])
        = (.ok row, after) ∧
      (after.read type row.readBack).1
        = .ok ⟨[("a", .null), ("b", .null), ("c", .array [.array [.int 1], .array []])],
          [("dirty", .bool false)]⟩ := by
  have builtIn : Dialect.postgres ∈ Dialect.builtIn := List.mem_cons_self ..
  refine ⟨_, _, builtIn, rfl, MappingContext.knows_empty _, ⟨by decide, by decide, by decide⟩, rfl, ?_⟩
  exact Iff.mpr (@read_readBack _ (fun _ => ⟨.list (.list .int32), true⟩) _ _
    (.new .postgres [] .empty 0) _ builtIn rfl (MappingContext.knows_empty _)
    ⟨by decide, by decide, by decide⟩ (fun name =>
      if name = "a" then none else if name = "b" then some [[], []] else some [[(1 : Int32)], []])
    [("dirty", .bool true)] _ rfl _) ⟨nofun, rfl⟩

/-- A list that cannot be absent and is empty is written as the NULL, which it does
not read. -/
theorem read_readBack_emptyList :
    let s := Strategy.new .postgres [] .empty 0
    let definition : EntityDefinition := ⟨"Log", "log", false, false,
      [⟨"codes", "codes", false, false, false⟩]⟩
    let typeOf : String → FieldType := fun _ => ⟨.list .int32, false⟩
    let type := definition.entityType ⟨⟨0⟩, "Log"⟩ (FieldType.codecs typeOf) []
    ∃ row after, s.dialect ∈ Dialect.builtIn ∧ s.conversions = s.dialect.conversions [] ∧
      definition.IsDeclared typeOf ∧
      s.outboundRow type (definition.instanceOf (FieldType.codecs typeOf) (fun _ => []) []) = (.ok row, after) ∧
      (after.read type row.readBack).1
        = .error (.conversion "INTEGER[]" "NULL" (some "codes")) := by
  exact ⟨_, _, List.mem_cons_self .., rfl, ⟨by decide, by decide, by decide⟩, rfl, rfl⟩

end Strategy

end DataMapper
