import DataMapper.Proofs.Definition

/-!
# Stored rows

A definition without violations has fields whose columns are not equivalent, so the properties
of its type are told apart when the fields have different names.  In a built-in dialect without
a user's converters the row of an instance is then made field by field
(`EntityDefinition.outboundRow_instanceOf`).

Either the row has all columns of the type in their order and holds for each field what the
dialect stores, or a field is refused, and the error is that of the first that is
(`Strategy.outboundRow_stores`).  Fields may have any codecs.  Where they have those of field
types, only a dialect without array columns refuses any, and it refuses the collections,
whatever they hold.
-/

namespace DataMapper

namespace EntityDefinition

variable {definition : EntityDefinition} {codecOf : String → Codec} {ref : TypeRef}
  {transients transient : List (String × Value)} {c : EntityConverter} {d : Dialect}

/-- The properties of an accepted definition are told apart when its fields have different
names. -/
theorem apart_of_violations (accepted : definition.violations = [])
    (names : (definition.persistentFields.map FieldDefinition.name).Nodup) :
    (definition.entityType ref codecOf transients).describe.Apart := by
  constructor
  · rw [properties_describe, List.map_map]
    exact names
  · rw [properties_describe]
    exact List.pairwise_map.mpr (pairwise_of_violations accepted)

/-- The entry of a field in an outbound row. -/
def outboundField (c : EntityConverter) (data : (name : String) → (codecOf name).Carrier)
    (f : FieldDefinition) : Except Error (Identifier × Settable) :=
  c.outboundEntry (fun name => (codecOf name).write (data name))
    (f.field (codecOf f.name)).toProperty

/-- In a built-in dialect, the row of an instance is made field by field. -/
theorem outboundRow_instanceOf (builtIn : d ∈ Dialect.builtIn)
    (accepted : definition.violations = [])
    (names : (definition.persistentFields.map FieldDefinition.name).Nodup)
    (data : (name : String) → (codecOf name).Carrier) (transient : List (String × Value)) :
    (EntityConverter.ofDialect d).outboundRow
        (definition.entityType ref codecOf transients).describe
        (definition.instanceOf codecOf data transient)
      = (definition.persistentFields.mapM (outboundField (.ofDialect d) data)).map .mk := by
  obtain ⟨written, hwritten⟩ := EntityConverter.exists_written (c := .ofDialect d)
    (Dialect.writesAll builtIn) (fun name => (codecOf name).write (data name))
    (definition.entityType ref codecOf transients).describe.properties
  rw [EntityConverter.outboundRow_eq (apart_of_violations accepted names)
    (properties_instanceOf data transient) hwritten, properties_describe, List.mapM_map]
  rfl

/-- Whether an entry has the column of a field and holds what a converter stores of its data. -/
def StoresField (c : EntityConverter) (data : (name : String) → (codecOf name).Carrier)
    (f : FieldDefinition) (entry : Identifier × Settable) : Prop :=
  entry.1 = f.identifier ∧
    c.Stores (codecOf f.name).sqlType ((codecOf f.name).write (data f.name)) entry.2

/-- Whether a converter refuses the data of a field with an error. -/
def RefusesField (c : EntityConverter) (data : (name : String) → (codecOf name).Carrier)
    (f : FieldDefinition) (e : Error) : Prop :=
  c.Refuses (codecOf f.name).sqlType ((codecOf f.name).write (data f.name)) e

/-- Entries of fields have their columns. -/
theorem map_fst_of_storesField {data : (name : String) → (codecOf name).Carrier}
    {fields : List FieldDefinition} {entries : List (Identifier × Settable)}
    (h : List.Forall₂ (StoresField c data) fields entries) :
    entries.map (·.1) = fields.map FieldDefinition.identifier := by
  induction h with
  | nil => rfl
  | cons hentry _ ih => rw [List.map_cons, List.map_cons, hentry.1, ih]

/-! ## One field -/

section Field

variable (builtIn : d ∈ Dialect.builtIn) (data : (name : String) → (codecOf name).Carrier)
  (f : FieldDefinition)

include builtIn

/-- In a built-in dialect, a field has an entry when it is not refused. -/
theorem exists_outboundField_iff :
    (∃ entry, outboundField (.ofDialect d) data f = .ok entry) ↔
      ∀ e, ¬ RefusesField (.ofDialect d) data f e := by
  constructor
  · rintro ⟨entry, hentry⟩ e refused
    have fails := EntityConverter.outboundValue_of_refuses
      (p := (f.field (codecOf f.name)).toProperty) builtIn refused
    obtain ⟨settable, hsettable, -⟩ := Outcome.map_eq_ok.mp hentry
    cases hsettable.symm.trans fails
  · intro kept
    obtain ⟨settable, hsettable, -⟩ | ⟨e, refused⟩ := EntityConverter.stores_or_refuses builtIn
      (f.field (codecOf f.name)).toProperty ((codecOf f.name).write (data f.name))
    · exact ⟨_, Outcome.map_eq_ok.mpr ⟨settable, hsettable, rfl⟩⟩
    · exact absurd refused (kept e)

theorem storesField_of_outboundField {entry : Identifier × Settable}
    (h : outboundField (.ofDialect d) data f = .ok entry) :
    StoresField (.ofDialect d) data f entry := by
  obtain ⟨settable, hsettable, rfl⟩ := Outcome.map_eq_ok.mp h
  exact ⟨rfl, EntityConverter.stores_of_outboundValue
    (p := (f.field (codecOf f.name)).toProperty) builtIn hsettable⟩

theorem outboundField_eq_error_iff {e : Error} :
    outboundField (.ofDialect d) data f = .error e ↔ RefusesField (.ofDialect d) data f e := by
  rw [outboundField, EntityConverter.outboundEntry, Outcome.map_eq_error]
  constructor
  · intro fails
    obtain ⟨settable, hsettable, -⟩ | ⟨other, refused⟩ := EntityConverter.stores_or_refuses builtIn
      (f.field (codecOf f.name)).toProperty ((codecOf f.name).write (data f.name))
    · cases fails.symm.trans hsettable
    · cases fails.symm.trans (EntityConverter.outboundValue_of_refuses builtIn refused)
      exact refused
  · exact fun refused => EntityConverter.outboundValue_of_refuses builtIn refused

end Field

/-- Whether the first of some fields that a converter refuses it refuses with an error. -/
def FirstRefused (c : EntityConverter) (data : (name : String) → (codecOf name).Carrier)
    (fields : List FieldDefinition) (e : Error) : Prop :=
  ∃ before f behind, fields = before ++ f :: behind ∧
    (∀ g ∈ before, ∀ refusal, ¬ RefusesField c data g refusal) ∧ RefusesField c data f e

/-- Where all refusals are the same, the first is when there is one. -/
theorem firstRefused_iff {data : (name : String) → (codecOf name).Carrier}
    {fields : List FieldDefinition} {e : Error}
    (only : ∀ f ∈ fields, ∀ refusal, RefusesField c data f refusal → refusal = e) :
    FirstRefused c data fields e ↔ ∃ f ∈ fields, RefusesField c data f e := by
  constructor
  · rintro ⟨before, f, behind, rfl, -, refused⟩
    exact ⟨f, List.mem_append_right _ (List.mem_cons_self ..), refused⟩
  · rintro ⟨f, mem, refused⟩
    induction fields with
    | nil => cases mem
    | cons first rest ih =>
        obtain ⟨here, later⟩ := List.forall_mem_cons.mp only
        by_cases kept : RefusesField c data first e
        · exact ⟨[], first, rest, rfl, nofun, kept⟩
        · obtain rfl | behind := List.mem_cons.mp mem
          · exact absurd refused kept
          · obtain ⟨before, g, others, rfl, free, fails⟩ := ih later behind
            refine ⟨first :: before, g, others, rfl, List.forall_mem_cons.mpr ⟨?_, free⟩, fails⟩
            exact fun refusal some => kept (here refusal some ▸ some)

/-- Without array columns, the collections are refused that hold no byte string. -/
theorem refusesField_iff_of_unsupported (unsupported : c.dialect.arrays.supported = false)
    (data : (name : String) → (codecOf name).Carrier) (f : FieldDefinition) {e : Error} :
    RefusesField c data f e ↔ ((codecOf f.name).sqlType.isArray = true ∧
      ((codecOf f.name).write (data f.name)).isBytes = false) ∧ e = c.noArrays := by
  constructor
  · intro refused
    cases refused with
    | noArrays collection parts _ => exact ⟨⟨collection, parts⟩, rfl⟩
    | items _ _ supported =>
        rw [unsupported] at supported
        cases supported
  · rintro ⟨⟨collection, parts⟩, rfl⟩
    exact .noArrays collection parts unsupported

/-- Without array columns, a row fails when a collection holds no byte string. -/
theorem firstRefused_noArrays_iff (unsupported : c.dialect.arrays.supported = false)
    (data : (name : String) → (codecOf name).Carrier) (fields : List FieldDefinition) :
    FirstRefused c data fields c.noArrays ↔ ∃ f ∈ fields,
      (codecOf f.name).sqlType.isArray = true ∧
        ((codecOf f.name).write (data f.name)).isBytes = false := by
  have refused (f : FieldDefinition) (e : Error) :=
    @refusesField_iff_of_unsupported codecOf c unsupported data f e
  rw [firstRefused_iff fun f _ e h => ((refused f e).mp h).2]
  simp only [refused, and_true]

/-- With the codec of a field type, only collections are refused, and only without array
columns. -/
theorem refusesField_iff_of_type (data : (name : String) → (codecOf name).Carrier)
    {f : FieldDefinition} (typed : ∃ type : FieldType, codecOf f.name = type.codec) {e : Error} :
    RefusesField c data f e ↔ (codecOf f.name).sqlType.isArray = true ∧
      c.dialect.arrays.supported = false ∧ e = c.noArrays := by
  rw [RefusesField]
  generalize data f.name = x
  generalize codecOf f.name = codec at typed x
  obtain ⟨type, rfl⟩ := typed
  exact type.refuses_write_iff x

/-! ## All fields -/

section Fields

variable (builtIn : d ∈ Dialect.builtIn) (accepted : definition.violations = [])
  (names : (definition.persistentFields.map FieldDefinition.name).Nodup)
  {data : (name : String) → (codecOf name).Carrier}

include builtIn accepted names

/-- A row of a built-in dialect has the columns of its type and holds what is stored. -/
theorem storesField_of_outboundRow {row : OutboundRow}
    (h : (EntityConverter.ofDialect d).outboundRow
      (definition.entityType ref codecOf transients).describe
      (definition.instanceOf codecOf data transient) = .ok row) :
    (definition.entityType ref codecOf transients).describe.columns = row.columns ∧
      List.Forall₂ (StoresField (.ofDialect d) data) definition.persistentFields row.entries := by
  rw [outboundRow_instanceOf builtIn accepted names] at h
  obtain ⟨entries, hentries, rfl⟩ := Outcome.map_eq_ok.mp h
  have stored : List.Forall₂ (StoresField (.ofDialect d) data) definition.persistentFields
      entries :=
    (Outcome.mapM_eq_ok_iff_forall₂.mp hentries).imp fun f entry made =>
      storesField_of_outboundField builtIn data f made
  refine ⟨?_, stored⟩
  rw [OutboundRow.columns, map_fst_of_storesField stored, PersistentEntity.columns,
    properties_describe, List.map_map]
  rfl

/-- In a built-in dialect, there is a row when no field is refused. -/
theorem exists_outboundRow_iff :
    (∃ row, (EntityConverter.ofDialect d).outboundRow
      (definition.entityType ref codecOf transients).describe
      (definition.instanceOf codecOf data transient) = .ok row) ↔
      ∀ f ∈ definition.persistentFields, ∀ e, ¬ RefusesField (.ofDialect d) data f e := by
  rw [outboundRow_instanceOf builtIn accepted names]
  simp only [← exists_outboundField_iff builtIn data, ← Outcome.exists_mapM_eq_ok_iff,
    Outcome.map_eq_ok]
  exact ⟨fun ⟨row, entries, made, _⟩ => ⟨entries, made⟩,
    fun ⟨entries, made⟩ => ⟨_, entries, made, rfl⟩⟩

/-- In a built-in dialect, the error of a row is that of the first field that is refused. -/
theorem outboundRow_eq_error_iff {e : Error} :
    (EntityConverter.ofDialect d).outboundRow
        (definition.entityType ref codecOf transients).describe
        (definition.instanceOf codecOf data transient) = .error e ↔
      FirstRefused (.ofDialect d) data definition.persistentFields e := by
  rw [outboundRow_instanceOf builtIn accepted names, Outcome.map_eq_error,
    Outcome.mapM_eq_error_iff]
  simp only [outboundField_eq_error_iff builtIn data, exists_outboundField_iff builtIn data]
  rfl

end Fields

end EntityDefinition

/-! ## Rows of a strategy -/

namespace Strategy

open EntityDefinition

variable {definition : EntityDefinition} {codecOf : String → Codec} {ref : TypeRef}
  {transients : List (String × Value)}

/-- In a built-in dialect without a user's converters, the outbound row of an instance has all
columns of its type in their order and holds for each field what the dialect stores.  There is
none exactly when a field is refused, and the error is that of the first.  A dialect without
array columns refuses the collections that hold no byte string.  Where the fields have the
codecs of field types, these are all collections, and nothing else is refused. -/
theorem outboundRow_stores {s : Strategy} (builtIn : s.dialect ∈ Dialect.builtIn)
    (plain : s.conversions = s.dialect.conversions [])
    (known : s.context.Knows (definition.entityType ref codecOf transients))
    (accepted : definition.violations = [])
    (names : (definition.persistentFields.map FieldDefinition.name).Nodup)
    (data : (name : String) → (codecOf name).Carrier) (transient : List (String × Value)) :
    let type := definition.entityType ref codecOf transients
    let fields := definition.persistentFields
    let outcome := (s.outboundRow type (definition.instanceOf codecOf data transient)).1
    let noArrays := Error.unsupported .arrayColumns s.dialect.name
    (∀ row, outcome = .ok row → (s.allColumns type).1 = .ok row.columns ∧
        List.Forall₂ (StoresField s.converter data) fields row.entries) ∧
      ((∃ row, outcome = .ok row) ↔ ∀ f ∈ fields, ∀ e, ¬ RefusesField s.converter data f e) ∧
      (∀ e, outcome = .error e ↔ FirstRefused s.converter data fields e) ∧
      (s.dialect.arrays.supported = false →
        (outcome = .error noArrays ↔ ∃ f ∈ fields, (codecOf f.name).sqlType.isArray = true ∧
          ((codecOf f.name).write (data f.name)).isBytes = false)) ∧
      ((∀ f ∈ fields, ∃ type : FieldType, codecOf f.name = type.codec) →
        (s.dialect.arrays.supported = true → ∃ row, outcome = .ok row) ∧
        (s.dialect.arrays.supported = false →
          (outcome = .error noArrays ↔
            ∃ f ∈ fields, (codecOf f.name).sqlType.isArray = true))) := by
  intro type fields outcome noArrays
  have converter : s.converter = .ofDialect s.dialect := by
    rw [Strategy.converter, plain]
    rfl
  have resolves := resolve_of_violations accepted ref codecOf transients
  have made : outcome = (EntityConverter.ofDialect s.dialect).outboundRow type.describe
      (definition.instanceOf codecOf data transient) := by
    rw [← converter]
    exact withEntity_of_resolve _ known resolves
  have columns : (s.allColumns type).1 = .ok type.describe.columns :=
    withEntity_of_resolve _ known resolves
  have fails (e : Error) : outcome = .error e ↔ FirstRefused (.ofDialect s.dialect) data fields e :=
    made ▸ outboundRow_eq_error_iff builtIn accepted names
  have succeeds : (∃ row, outcome = .ok row) ↔
      ∀ f ∈ fields, ∀ e, ¬ RefusesField (.ofDialect s.dialect) data f e :=
    made ▸ exists_outboundRow_iff builtIn accepted names
  rw [converter]
  have without (unsupported : s.dialect.arrays.supported = false) :=
    (fails noArrays).trans (firstRefused_noArrays_iff unsupported data fields)
  refine ⟨fun row hrow => ?_, succeeds, fails, without,
    fun typed => ⟨fun supported => succeeds.mpr fun f hf e refused => ?_, fun unsupported => ?_⟩⟩
  · obtain ⟨same, stored⟩ := storesField_of_outboundRow builtIn accepted names (made ▸ hrow)
    exact ⟨columns.trans (congrArg Except.ok same), stored⟩
  · rw [refusesField_iff_of_type data (typed f hf)] at refused
    cases supported.symm.trans refused.2.1
  · rw [without unsupported]
    constructor
    · rintro ⟨f, hf, collection, -⟩
      exact ⟨f, hf, collection⟩
    · rintro ⟨f, hf, collection⟩
      have refused : RefusesField (.ofDialect s.dialect) data f noArrays :=
        (refusesField_iff_of_type data (typed f hf)).mpr ⟨collection, unsupported, rfl⟩
      exact ⟨f, hf, ((refusesField_iff_of_unsupported unsupported data f).mp refused).1⟩

/-- A key, an absent list, a list of empty lists and a list of custom items that hold texts, which
one dialect stores and another refuses. -/
theorem outboundRow_stores_grid :
    let held : String → (codec : Codec) × codec.Carrier := fun name =>
      if name = "id" then ⟨FieldType.codec ⟨.int64, false⟩, (7 : Int64)⟩
      else if name = "codes" then
        ⟨FieldType.codec ⟨.list .int16, true⟩, (none : Option (List Int16))⟩
      else if name = "blanks" then
        ⟨FieldType.codec ⟨.list (.list .int32), false⟩, ([[], []] : List (List Int32))⟩
      else ⟨.verbatim (.array (.custom "POINT")) false, Value.array [.text "(1,2)", .null]⟩
    let codecOf : String → Codec := fun name => (held name).1
    let data : (name : String) → (codecOf name).Carrier := fun name => (held name).2
    let definition : EntityDefinition := ⟨"Grid", "grid", false, false,
      [⟨"id", "id", true, false, false⟩, ⟨"codes", "Codes", false, true, false⟩,
        ⟨"blanks", "blanks", false, false, false⟩, ⟨"spots", "spots", false, false, false⟩]⟩
    let type := definition.entityType ⟨⟨0⟩, "Grid"⟩ codecOf []
    let i := definition.instanceOf codecOf data []
    let grids := Strategy.new .postgres [] .empty 0
    let flat := Strategy.new .mysql [] .empty 0
    grids.dialect ∈ Dialect.builtIn ∧ flat.dialect ∈ Dialect.builtIn ∧ definition.violations = [] ∧
      (definition.persistentFields.map FieldDefinition.name).Nodup ∧
      (∃ row, (grids.outboundRow type i).1 = .ok row ∧ (grids.allColumns type).1 = .ok row.columns ∧
        List.Forall₂ (StoresField grids.converter data) definition.persistentFields row.entries) ∧
      (flat.outboundRow type i).1 = .error (.unsupported .arrayColumns "mysql") := by
  intro held codecOf data definition type i grids flat
  have gridsBuiltIn : grids.dialect ∈ Dialect.builtIn := List.mem_cons_self ..
  have flatBuiltIn : flat.dialect ∈ Dialect.builtIn := by simp [Dialect.builtIn, flat, new]
  have accepted : definition.violations = [] := by decide
  have names : (definition.persistentFields.map FieldDefinition.name).Nodup := by decide
  have known : MappingContext.empty.Knows type := MappingContext.knows_empty type
  obtain ⟨stores, -⟩ := outboundRow_stores gridsBuiltIn rfl known accepted names data []
  obtain ⟨-, -, -, refuses, -⟩ := outboundRow_stores flatBuiltIn rfl known accepted names data []
  have list : ∃ f ∈ definition.persistentFields, (codecOf f.name).sqlType.isArray = true ∧
      ((codecOf f.name).write (data f.name)).isBytes = false :=
    ⟨⟨"codes", "Codes", false, true, false⟩, by decide, rfl, rfl⟩
  obtain ⟨row, hrow⟩ : ∃ row, (grids.outboundRow type i).1 = .ok row := by
    dsimp only [grids, type, i, definition, codecOf, data, held]
    exact ⟨_, rfl⟩
  exact ⟨gridsBuiltIn, flatBuiltIn, accepted, names, ⟨row, hrow, stores row hrow⟩,
    (refuses rfl).mpr list⟩

/-- An absent list of custom items has no row in a dialect with array columns, and a list column
that holds a byte string has one in a dialect without them. -/
theorem outboundRow_stores_spots :
    let definition : EntityDefinition :=
      ⟨"Dyn", "dyn_table", false, false, [⟨"spots", "spots", false, false, false⟩]⟩
    let type (items : SqlType) :=
      definition.entityType ⟨⟨0⟩, "Dyn"⟩ (fun _ => .verbatim (.array items) true) []
    let points := Strategy.new .postgres [] .empty 0
    let flat := Strategy.new .mysql [] .empty 0
    definition.violations = [] ∧ points.dialect.arrays.supported = true ∧
      (points.outboundRow (type (.custom "POINT")) ⟨[("spots", .null)], []⟩).1
        = .error (.unsupported (.arraysOf (.custom "POINT")) "postgres") ∧
      flat.dialect.arrays.supported = false ∧
      ∃ row, (flat.outboundRow (type .integer) ⟨[("spots", .bytes [1, 2])], []⟩).1 = .ok row :=
  ⟨by decide, rfl, rfl, rfl, _, rfl⟩

end Strategy

end DataMapper
