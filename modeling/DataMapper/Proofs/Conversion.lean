import DataMapper.Proofs.Coercion
import DataMapper.Proofs.FieldType

/-!
# The converters of the built-in dialects

A built-in dialect has no converters of its own, or it stores truth values as
8-bit integers and has no array columns.  `Value.HasType` says which values have a
type: every NULL, arrays item by item, and each scalar its own.  A registry that reads
scalars back reads back all typed values, at any depth (`Conversions.readsBack_of_hasType`),
so what the registry of a built-in dialect writes for a typed value it reads back towards
the type (`Dialect.readValue_of_writeValue`).  The data of a field are such values
(`FieldType.hasType_write`).

A registry settles when what it has written it writes again as it is
(`Conversions.Settles`).  That is a condition on the converters of a user.  The
registry of a built-in dialect alone meets it (`Dialect.settles`).  A converter of a
user may also fail to write a value, whereas such a registry writes every value
(`Dialect.writesAll`).
-/

namespace DataMapper

/-- A built-in dialect has no converters, or it has one and no arrays. -/
theorem Dialect.converters_of_builtIn {d : Dialect} (h : d ∈ Dialect.builtIn) :
    d.converters = [] ∨
      (d.converters = [.booleanAsTinyInt] ∧ d.arrays.supported = false) := by
  simp only [Dialect.builtIn, List.mem_cons, List.not_mem_nil, or_false] at h
  rcases h with rfl | rfl | rfl | rfl | rfl
  · exact .inl rfl
  · exact .inl rfl
  · exact .inr ⟨rfl, rfl⟩
  · exact .inl rfl
  · exact .inl rfl

/-- A built-in dialect with array columns has no converters. -/
theorem Dialect.converters_of_supported {d : Dialect} (h : d ∈ Dialect.builtIn)
    (supported : d.arrays.supported = true) : (d.conversions []).converters = [] := by
  rcases Dialect.converters_of_builtIn h with none | ⟨-, unsupported⟩
  · exact none
  · rw [supported] at unsupported
    cases unsupported

/-- The registry of a built-in dialect has no converters, or it has one. -/
theorem Dialect.conversions_of_builtIn {d : Dialect} (known : d ∈ builtIn) :
    d.conversions [] = ⟨[], d.simple⟩ ∨ d.conversions [] = ⟨[.booleanAsTinyInt], d.simple⟩ := by
  rw [conversions, Conversions.ofLists, List.nil_append]
  rcases converters_of_builtIn known with none | ⟨one, -⟩
  · exact .inl (by rw [none])
  · exact .inr (by rw [one])

/-- Whether a value has a type.  The NULL has every type, an array the array type of one that
all its items have, and a scalar its own.  A variant has none. -/
inductive Value.HasType : Value → SqlType → Prop where
  | null (type : SqlType) : HasType .null type
  | array {items : List Value} {inner : SqlType} (each : ∀ item ∈ items, HasType item inner) :
      HasType (.array items) (.array inner)
  | scalar {value : Value} {type : SqlType} (own : value.scalarType? = some type) :
      HasType value type

namespace Conversions

variable {c : Conversions}

/-- Whether a registry writes a value and reads it back towards a type. -/
def ReadsBack (c : Conversions) (value : Value) (type : SqlType) : Prop :=
  ∃ stored, c.writeValue value = .ok stored ∧ c.readValue stored type = .ok value

/-- Items that are each read back are read back together. -/
theorem readsBack_array {items : List Value} {inner : SqlType}
    (each : ∀ item ∈ items, c.ReadsBack item inner) :
    c.ReadsBack (.array items) (.array inner) := by
  have all : ∃ stored, c.writeItems items = .ok stored ∧ c.readItems stored inner = .ok items := by
    induction items with
    | nil => exact ⟨[], rfl, rfl⟩
    | cons item rest ih =>
        obtain ⟨here, later⟩ := List.forall_mem_cons.mp each
        obtain ⟨first, hwrite, hread⟩ := here
        obtain ⟨others, hwrites, hreads⟩ := ih later
        refine ⟨first :: others, ?_, ?_⟩
        · rw [writeItems, hwrite, hwrites]
          rfl
        · rw [readItems, hread, hreads]
          rfl
  obtain ⟨stored, hwrites, hreads⟩ := all
  refine ⟨.array stored, ?_, ?_⟩
  · rw [writeValue, hwrites]
    rfl
  · rw [readValue, hreads]
    rfl

/-- A registry that reads scalars back towards their types reads back every typed value. -/
theorem readsBack_of_hasType
    (scalars : ∀ value type, value.scalarType? = some type → c.ReadsBack value type)
    {value : Value} {type : SqlType} (typed : value.HasType type) : c.ReadsBack value type := by
  induction typed with
  | null type => exact ⟨.null, rfl, rfl⟩
  | array _ ih => exact readsBack_array ih
  | scalar own => exact scalars _ _ own

/-- Without converters, scalars are read back. -/
theorem readsBack_scalar_of_nil (none : c.converters = []) {value : Value} {type : SqlType}
    (own : value.scalarType? = some type) : c.ReadsBack value type := by
  obtain ⟨converters, simple⟩ := c
  cases none
  cases value <;> cases own <;> exact ⟨_, rfl, rfl⟩

/-- Without converters, typed values are written as they are. -/
theorem writeValue_of_hasType (none : c.converters = []) {value : Value} {type : SqlType}
    (typed : value.HasType type) : c.writeValue value = .ok value := by
  obtain ⟨converters, simple⟩ := c
  cases none
  induction typed with
  | null type => rfl
  | @array items inner _ ih =>
      have each : ∀ item ∈ items, (⟨[], simple⟩ : Conversions).writeValue item = .ok (id item) := ih
      rw [writeValue, writeItems_eq, Outcome.mapM_eq_ok_map each, List.map_id]
      rfl
  | @scalar value type own => cases value <;> cases own <;> rfl

/-- With truth values as 8-bit integers, scalars are read back.  An 8-bit integer that is no
truth value stays one, for it is not read towards truth values. -/
theorem readsBack_scalar_of_booleanAsTinyInt (one : c.converters = [.booleanAsTinyInt])
    {value : Value} {type : SqlType} (own : value.scalarType? = some type) :
    c.ReadsBack value type := by
  obtain ⟨converters, simple⟩ := c
  cases one
  cases value with
  | bool b =>
      cases own
      refine ⟨.tinyInt (if b then 1 else 0), rfl, ?_⟩
      cases b <;> rfl
  | _ => cases own <;> exact ⟨_, rfl, rfl⟩

end Conversions

/-- The registry of a built-in dialect reads scalars back. -/
theorem Dialect.readsBack_scalar {d : Dialect} (known : d ∈ builtIn) (value : Value)
    (type : SqlType) (own : value.scalarType? = some type) :
    (d.conversions []).ReadsBack value type := by
  rcases converters_of_builtIn known with none | ⟨one, -⟩
  · exact Conversions.readsBack_scalar_of_nil none own
  · exact Conversions.readsBack_scalar_of_booleanAsTinyInt one own

/-- The value of some data has the column type of their shape. -/
theorem Shape.hasType_write (shape : Shape) (x : shape.Carrier) :
    (shape.write x).HasType shape.sqlType := by
  induction shape with
  | list inner ih =>
      change List inner.Carrier at x
      refine .array fun value hvalue => ?_
      obtain ⟨item, -, rfl⟩ := List.mem_map.mp hvalue
      exact ih item
  | _ => exact .scalar rfl

/-- The value of a field has the column type of the field. -/
theorem FieldType.hasType_write (type : FieldType) (x : type.Carrier) :
    (type.write x).HasType type.sqlType := by
  rcases type.write_eq x with absent | ⟨y, present⟩
  · rw [absent]
    exact .null _
  · rw [present]
    exact type.shape.hasType_write y

/-- In a built-in dialect without converters of a user, a value of a type is written, and
read towards that type what was written is the value again. -/
theorem Dialect.readValue_of_writeValue {d : Dialect} (known : d ∈ builtIn) {value : Value}
    {type : SqlType} (typed : value.HasType type) :
    ∃ stored, (d.conversions []).writeValue value = .ok stored ∧
      (d.conversions []).readValue stored type = .ok value :=
  Conversions.readsBack_of_hasType (readsBack_scalar known) typed

/-- Lists of truth values and NULLs, which are stored as integers. -/
theorem Dialect.readValue_of_writeValue_nested :
    let value : Value := .array [.array [.bool true, .null], .null, .array []]
    mysql ∈ builtIn ∧ value.HasType (.array (.array .boolean)) ∧
      ∃ stored, (mysql.conversions []).writeValue value = .ok stored ∧
        (mysql.conversions []).readValue stored (.array (.array .boolean)) = .ok value := by
  intro value
  have known : mysql ∈ builtIn := by simp [builtIn]
  have row : (Value.array [.bool true, .null]).HasType (.array .boolean) :=
    .array (by simpa using ⟨.scalar rfl, .null _⟩)
  have typed : value.HasType (.array (.array .boolean)) :=
    .array (by simpa using ⟨row, .null _, .array nofun⟩)
  exact ⟨known, typed, readValue_of_writeValue known typed⟩

/-! ## Values that are written as they are -/

namespace Conversions

variable {c : Conversions}

/-- Whether a value is written as it is. -/
def Keeps (c : Conversions) (value : Value) : Prop := c.writeValue value = .ok value

/-- Whether what was written is written again as it is, also when the integers of
its arrays were widened in between. -/
structure Settles (c : Conversions) : Prop where
  written : ∀ value stored, c.writeValue value = .ok stored → c.Keeps stored
  smallInt : ∀ n, c.Keeps (.smallInt n)
  int : ∀ n, c.Keeps (.int n)
  bigInt : ∀ n, c.Keeps (.bigInt n)

/-- An array is written as it is when its items are. -/
theorem keeps_array {items : List Value} :
    c.Keeps (.array items) ↔ ∀ item ∈ items, c.Keeps item := by
  rw [Keeps, writeValue, Outcome.map_eq_ok, writeItems_eq]
  constructor
  · rintro ⟨stored, hstored, same⟩
    cases same
    exact (Outcome.mapM_eq_self_iff hstored).mp rfl
  · intro each
    have all := Outcome.mapM_eq_ok_map (g := id) each
    rw [List.map_id] at all
    exact ⟨items, all, rfl⟩

/-- What is written as it is stays so when its integers are widened. -/
theorem Settles.keeps_coerce (settles : c.Settles) (store : SqlType) (value : Value) :
    c.Keeps value → c.Keeps (value.coerce store) := by
  induction value using Value.array_induction with
  | single value single =>
      intro h
      cases value with
      | array items => cases single
      | tinyInt n =>
          cases store with
          | smallInt => exact settles.smallInt _
          | integer => exact settles.int _
          | _ => exact h
      | smallInt n =>
          cases store with
          | integer => exact settles.int _
          | _ => exact h
      | int n =>
          cases store with
          | bigInt => exact settles.bigInt _
          | _ => exact h
      | _ => exact h
  | array items ih =>
      intro h
      rw [keeps_array] at h
      rw [Value.coerce_array, keeps_array, List.forall_mem_map]
      exact fun item hitem => ih item hitem (h item hitem)

/-- Without converters, a value without variants among its leaves is written as it is. -/
theorem keeps_of_leaves (none : c.converters = []) {value : Value} :
    (∀ typeName variant, .enumeration typeName variant ∉ value.leaves) → c.Keeps value := by
  obtain ⟨converters, simple⟩ := c
  cases none
  induction value using Value.array_induction with
  | single value single =>
      intro plain
      cases value with
      | array items => cases single
      | enumeration typeName variant =>
          exact absurd (List.mem_singleton_self _) (plain typeName variant)
      | _ => rfl
  | array items ih =>
      intro plain
      rw [Value.leaves_array] at plain
      refine keeps_array.mpr fun item hitem => ih item hitem fun typeName variant hleaf => ?_
      exact plain typeName variant (List.mem_flatMap.mpr ⟨item, hitem, hleaf⟩)

/-- Whether what is written for a value that is no array is written as it is. -/
def SettlesLeaves (c : Conversions) : Prop :=
  ∀ value stored, value.isArray = false → c.writeLeaf value = .ok stored → c.Keeps stored

/-- What is written is written again as it is, when that holds below all arrays. -/
theorem SettlesLeaves.keeps (leaves : c.SettlesLeaves) (value : Value) :
    ∀ stored, c.writeValue value = .ok stored → c.Keeps stored := by
  induction value using Value.array_induction with
  | single value single =>
      intro stored h
      cases value with
      | null => cases h; rfl
      | array items => cases single
      | _ => exact leaves _ stored rfl h
  | array items ih =>
      intro stored h
      obtain ⟨written, hwritten, rfl⟩ := Outcome.map_eq_ok.mp h
      rw [writeItems_eq] at hwritten
      refine keeps_array.mpr fun first hfirst => ?_
      obtain ⟨item, hitem, writes⟩ := Outcome.exists_of_mem_mapM hwritten hfirst
      exact ih item hitem first writes

/-- Without converters, a registry settles. -/
theorem settles_of_nil (none : c.converters = []) : c.Settles := by
  obtain ⟨converters, simple⟩ := c
  cases none
  refine ⟨SettlesLeaves.keeps ?_, fun _ => rfl, fun _ => rfl, fun _ => rfl⟩
  intro value stored single hstored
  cases value with
  | array items => cases single
  | _ => cases hstored; rfl

/-- With truth values as 8-bit integers, a registry settles. -/
theorem settles_of_booleanAsTinyInt (one : c.converters = [.booleanAsTinyInt]) : c.Settles := by
  obtain ⟨converters, simple⟩ := c
  cases one
  refine ⟨SettlesLeaves.keeps ?_, fun _ => rfl, fun _ => rfl, fun _ => rfl⟩
  intro value stored single hstored
  cases value with
  | array items => cases single
  | _ => cases hstored; rfl

end Conversions

/-- The registry of a built-in dialect settles. -/
theorem Dialect.settles {d : Dialect} (h : d ∈ Dialect.builtIn) : (d.conversions []).Settles := by
  rcases Dialect.converters_of_builtIn h with none | ⟨one, -⟩
  · exact Conversions.settles_of_nil none
  · exact Conversions.settles_of_booleanAsTinyInt one

/-- What the registry of a built-in dialect has written no converter of it accepts. -/
theorem Dialect.hasWriter_of_writeValue {d : Dialect} (known : d ∈ builtIn) {value stored : Value}
    (writes : (d.conversions []).writeValue value = .ok stored) :
    (d.conversions []).hasWriter stored = false := by
  rcases conversions_of_builtIn known with registry | registry
  · rw [registry]
    rfl
  · rw [registry] at writes ⊢
    cases value with
    | array items =>
        obtain ⟨written, -, rfl⟩ := Outcome.map_eq_ok.mp writes
        rfl
    | _ => cases writes; rfl

/-! ## Registries that write every value -/

namespace Conversions

variable {c : Conversions}

/-- Whether a registry writes every value. -/
def WritesAll (c : Conversions) : Prop := ∀ value, ∃ stored, c.writeValue value = .ok stored

/-- A registry writes every value when it writes those that are not arrays. -/
theorem writesAll_of_leaves
    (leaves : ∀ value, value.isArray = false → ∃ stored, c.writeLeaf value = .ok stored) :
    c.WritesAll := by
  intro value
  induction value using Value.array_induction with
  | single value single =>
      cases value with
      | null => exact ⟨.null, rfl⟩
      | array items => cases single
      | _ => exact leaves _ rfl
  | array items ih =>
      obtain ⟨stored, hstored⟩ := Outcome.exists_mapM_eq_ok_iff.mpr ih
      rw [← writeItems_eq] at hstored
      exact ⟨.array stored, Outcome.map_eq_ok.mpr ⟨stored, hstored, rfl⟩⟩

end Conversions

/-- The registry of a built-in dialect writes every value. -/
theorem Dialect.writesAll {d : Dialect} (known : d ∈ builtIn) : (d.conversions []).WritesAll := by
  refine Conversions.writesAll_of_leaves fun value single => ?_
  rcases conversions_of_builtIn known with registry | registry
  · rw [registry]
    cases value <;> exact ⟨_, rfl⟩
  · rw [registry]
    cases value <;> exact ⟨_, rfl⟩

end DataMapper
