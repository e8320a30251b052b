import DataMapper.Proofs.Entity.Labels
import Mathlib.Data.List.Pairwise

/-!
# Rearranged rows

The columns of a row may come in any order, each with its value, and a row may have columns that
go to no property.  When the labels differ in more than the case of letters, no two columns go to
one property, so what a property is given does not depend on the order
(`PersistentEntity.given?_rearranged`).  Whether a row can be read is a matter of what the
properties are given (`EntityConverter.exists_readProperties_iff`).

Values are kept by the names of properties.  Of two properties of one name that both take a
column the later column counts, and which one is later does depend on the order.  So the two
rows agree on the names that one property alone takes a column for, and make the same instance
when each name is such (`EntityConverter.read_rearranged`).
-/

namespace DataMapper

/-! ## Cells -/

namespace Row

variable {row : Row}

/-- The labels of a row with their values, a missing value being the NULL. -/
def cells (row : Row) : List (String × Value) :=
  row.columns.labels.zipIdx.map fun cell => (cell.1, row.getOrNull cell.2)

theorem mem_cells {cell : String × Value} :
    cell ∈ row.cells ↔ ∃ position column, row.columns[position]? = some column ∧
      (column.label, row.getOrNull position) = cell := by
  rw [cells, List.mem_map]
  constructor
  · rintro ⟨⟨label, position⟩, mem, rfl⟩
    rw [List.mem_zipIdx_iff_getElem?, Columns.labels, List.getElem?_map, Option.map_eq_some_iff]
      at mem
    obtain ⟨column, hcolumn, rfl⟩ := mem
    exact ⟨position, column, hcolumn, rfl⟩
  · rintro ⟨position, column, hcolumn, rfl⟩
    refine ⟨(column.label, position), ?_, rfl⟩
    rw [List.mem_zipIdx_iff_getElem?, Columns.labels, List.getElem?_map, hcolumn, Option.map_some]

theorem map_fst_cells (row : Row) : row.cells.map Prod.fst = row.columns.labels := by
  rw [cells, List.map_map]
  exact List.zipIdx_map_fst 0 _

end Row

namespace PersistentEntity

variable {e : PersistentEntity} {row other : Row} {more : List (String × Value)} {slot : Nat}

/-! ## What a property is given -/

/-- The value in the column that the property at a slot takes. -/
def given? (e : PersistentEntity) (row : Row) (slot : Nat) : Option Value :=
  (e.taken? row.columns slot).map row.getOrNull

/-- Whether two cells do not go to one property. -/
def GoApart (e : PersistentEntity) (a b : String × Value) : Prop :=
  ∀ slot, e.slotOf? a.1 = some slot → e.slotOf? b.1 ≠ some slot

instance : Std.Symm e.GoApart := ⟨fun _ _ apart slot hb ha => apart slot ha hb⟩

theorem given?_isSome : (e.given? row slot).isSome = (e.taken? row.columns slot).isSome :=
  Option.isSome_map

/-- No property is missing when each is given something or can be NULL. -/
theorem served_iff : e.Served row.columns ↔ ∀ slot p, e.properties[slot]? = some p →
    p.nullable = true ∨ (e.given? row slot).isSome = true := by
  simp only [Served, given?_isSome]

/-- What a property is given stands in a cell that goes to the property. -/
theorem mem_cells_of_given? {value : Value} (h : e.given? row slot = some value) :
    ∃ label, (label, value) ∈ row.cells ∧ e.slotOf? label = some slot := by
  obtain ⟨position, taken, rfl⟩ := Option.map_eq_some_iff.mp h
  obtain ⟨bound, goes, -⟩ := List.findIdx?_eq_some_iff_getElem.mp taken
  exact ⟨_, Row.mem_cells.mpr ⟨position, _, List.getElem?_eq_getElem bound, rfl⟩,
    beq_iff_eq.mp goes⟩

/-- A property is given something when some cell goes to it. -/
theorem given?_isSome_of_mem {cell : String × Value} (mem : cell ∈ row.cells)
    (goes : e.slotOf? cell.1 = some slot) : (e.given? row slot).isSome = true := by
  obtain ⟨position, column, hcolumn, rfl⟩ := Row.mem_cells.mp mem
  rw [given?_isSome, taken?, List.findIdx?_isSome, List.any_eq_true]
  exact ⟨column, List.mem_of_getElem? hcolumn, beq_iff_eq.mpr goes⟩

/-- When no two cells go to one property, a property is given what the cell holds that goes
to it. -/
theorem given?_eq_some_iff (apart : row.cells.Pairwise e.GoApart) {value : Value} :
    e.given? row slot = some value ↔
      ∃ label, (label, value) ∈ row.cells ∧ e.slotOf? label = some slot := by
  refine ⟨mem_cells_of_given?, ?_⟩
  rintro ⟨label, mem, goes⟩
  obtain ⟨first, given⟩ := Option.isSome_iff_exists.mp (given?_isSome_of_mem mem goes)
  obtain ⟨own, among, same⟩ := mem_cells_of_given? given
  have one : (own, first) = (label, value) :=
    by_contra fun different => apart.forall among mem different slot same goes
  cases one
  exact given

/-- Cells of which the labels differ in more than the case of letters go to different
properties, as the column of a property matches labels that are equal up to case. -/
theorem pairwise_goApart (distinct : (row.columns.labels.map Text.foldLabel).Nodup) :
    row.cells.Pairwise e.GoApart := by
  rw [← Row.map_fst_cells, List.map_map, List.Nodup, List.pairwise_map] at distinct
  refine distinct.imp fun different slot first second => different ?_
  obtain ⟨p, hp, own⟩ := exists_of_slotOf? first
  obtain ⟨q, hq, too⟩ := exists_of_slotOf? second
  cases hp.symm.trans hq
  exact (Identifier.matchesLabel_iff.mp own).symm.trans (Identifier.matchesLabel_iff.mp too)

theorem slotOf?_eq_none_iff {label : String} :
    e.slotOf? label = none ↔ ∀ p ∈ e.properties, p.column.matchesLabel label = false :=
  List.findIdx?_eq_none_iff

/-- A row with the cells of another, in any order and with cells that go to no property, gives
each property the same. -/
theorem given?_rearranged (distinct : (row.columns.labels.map Text.foldLabel).Nodup)
    (rearranged : other.cells.Perm (row.cells ++ more))
    (unmatched : ∀ cell ∈ more, ∀ p ∈ e.properties, p.column.matchesLabel cell.1 = false) :
    e.given? other = e.given? row := by
  have apart : row.cells.Pairwise e.GoApart := pairwise_goApart distinct
  have nowhere : ∀ cell ∈ more, ∀ slot, e.slotOf? cell.1 ≠ some slot := by
    intro cell mem slot
    rw [slotOf?_eq_none_iff.mpr (unmatched cell mem)]
    exact (Option.some_ne_none slot).symm
  have also : other.cells.Pairwise e.GoApart := by
    refine (rearranged.pairwise_iff (Std.Symm.symm _ _)).mpr ?_
    refine List.pairwise_append.mpr ⟨apart, ?_, fun _ _ b hb slot _ => nowhere b hb slot⟩
    exact List.pairwise_of_forall_mem_list fun _ _ b hb slot _ => nowhere b hb slot
  refine funext fun slot => Option.ext fun value => ?_
  rw [given?_eq_some_iff also, given?_eq_some_iff apart]
  refine exists_congr fun label => and_congr_left fun goes => ?_
  rw [rearranged.mem_iff, List.mem_append]
  exact or_iff_left fun mem => nowhere _ mem slot goes

/-! ## Names that one property has a column for -/

/-- Whether the property at a slot has a name and takes a column. -/
def TakesAs (e : PersistentEntity) (columns : Columns) (name : String) (slot : Nat) : Prop :=
  ∃ p, e.properties[slot]? = some p ∧ p.name = name ∧ (e.taken? columns slot).isSome = true

/-- Whether no two properties of a name take a column. -/
def TakenOnce (e : PersistentEntity) (columns : Columns) (name : String) : Prop :=
  ∀ slot other, e.TakesAs columns name slot → e.TakesAs columns name other → slot = other

/-- A name that one property takes a column for has its last column there. -/
theorem TakenOnce.isLastNamed {columns : Columns} {name : String}
    (once : e.TakenOnce columns name) (takes : e.TakesAs columns name slot) {position : Nat}
    (taken : e.taken? columns slot = some position) : e.IsLastNamed columns name position := by
  intro another q later hq named goes
  have same : slot = another := once slot another takes ⟨q, hq, named, goes ▸ rfl⟩
  rw [← same, taken, Option.some.injEq] at goes
  exact Nat.le_of_eq goes.symm

/-- Properties of different names take columns for names of their own. -/
theorem takenOnce_of_nodup (names : (e.properties.map Property.name).Nodup) (columns : Columns)
    (name : String) : e.TakenOnce columns name := by
  rintro slot other ⟨p, hp, named, -⟩ ⟨q, hq, rfl, -⟩
  obtain ⟨bound, -⟩ := List.getElem?_eq_some_iff.mp hp
  refine (List.getElem?_inj (List.length_map Property.name ▸ bound) names).mp ?_
  rw [List.getElem?_map, List.getElem?_map, hp, hq, Option.map_some, Option.map_some, named]

theorem takesAs_congr (same : e.given? other = e.given? row) {name : String} :
    e.TakesAs other.columns name slot ↔ e.TakesAs row.columns name slot := by
  rw [TakesAs, TakesAs, ← given?_isSome, ← given?_isSome, same]

end PersistentEntity

/-- An instance is made of the values by name. -/
theorem EntityType.ofProperties_congr (type : EntityType) {others values : PropertyValues}
    (same : ∀ name, others.entries.lookup name = values.entries.lookup name) :
    type.ofProperties others = type.ofProperties values := by
  have fields : readField others = readField values := by
    funext f
    rw [readField, readField, PropertyValues.getAs, PropertyValues.getAs, PropertyValues.get,
      PropertyValues.get, same]
  rw [ofProperties, ofProperties, fields]

namespace EntityConverter

variable {c : EntityConverter} {e : PersistentEntity} {row other : Row}
  {values others : PropertyValues}

/-! ## What a row is read as -/

/-- Whether the columns that properties take can be read is a matter of what they are given. -/
theorem canRead_iff : c.CanRead e row ↔ ∀ slot p value, e.properties[slot]? = some p →
    e.given? row slot = some value → ∃ read, c.conversions.readValue value p.sqlType = .ok read := by
  constructor
  · intro can slot p value hp given
    obtain ⟨position, taken, rfl⟩ := Option.map_eq_some_iff.mp given
    exact can slot p position hp taken
  · intro can slot p position hp taken
    exact can slot p _ hp (Option.map_eq_some_iff.mpr ⟨position, taken, rfl⟩)

/-- The value of a name that one property takes a column for. -/
theorem lookup_of_takesAs (h : c.readProperties e row = .ok values) {name : String}
    (once : e.TakenOnce row.columns name) {slot : Nat} (takes : e.TakesAs row.columns name slot) :
    ∃ p raw value, e.properties[slot]? = some p ∧ e.given? row slot = some raw ∧
      c.conversions.readValue raw p.sqlType = .ok value ∧
      values.entries.lookup name = some value := by
  obtain ⟨final, reads, rfl, -⟩ := reads_of_readProperties h
  obtain ⟨p, hp, rfl, taken⟩ := id takes
  obtain ⟨position, taken⟩ := Option.isSome_iff_exists.mp taken
  obtain ⟨value, read, found⟩ := reads.given slot p position hp taken (once.isLastNamed takes taken)
  exact ⟨p, _, value, hp, Option.map_eq_some_iff.mpr ⟨position, taken, rfl⟩, read, found⟩

/-- A name that no property takes a column for has no value. -/
theorem lookup_of_not_takesAs (h : c.readProperties e row = .ok values) {name : String}
    (free : ∀ slot, ¬ e.TakesAs row.columns name slot) : values.entries.lookup name = none := by
  obtain ⟨final, reads, rfl, -⟩ := reads_of_readProperties h
  refine reads.absent name fun slot p hp named => Option.not_isSome_iff_eq_none.mp fun taken => ?_
  exact free slot ⟨p, hp, named, taken⟩

/-! ## Rearranged rows -/

/-- Rows that give each property the same are read alike. -/
theorem exists_readProperties_congr (same : e.given? other = e.given? row) :
    (∃ values, c.readProperties e other = .ok values) ↔
      ∃ values, c.readProperties e row = .ok values := by
  rw [exists_readProperties_iff, exists_readProperties_iff, canRead_iff, canRead_iff,
    PersistentEntity.served_iff, PersistentEntity.served_iff, same]

/-- Rows that give each property the same have the same values, for names that one property
takes a column for. -/
theorem lookup_congr (same : e.given? other = e.given? row)
    (hother : c.readProperties e other = .ok others) (hrow : c.readProperties e row = .ok values)
    {name : String} (once : e.TakenOnce row.columns name) :
    others.entries.lookup name = values.entries.lookup name := by
  have also : e.TakenOnce other.columns name := fun slot another first second =>
    once slot another ((PersistentEntity.takesAs_congr same).mp first)
      ((PersistentEntity.takesAs_congr same).mp second)
  by_cases some : ∃ slot, e.TakesAs row.columns name slot
  · obtain ⟨slot, takes⟩ := some
    obtain ⟨p, raw, value, hp, given, read, found⟩ := lookup_of_takesAs hrow once takes
    obtain ⟨q, raw', value', hq, given', read', found'⟩ :=
      lookup_of_takesAs hother also ((PersistentEntity.takesAs_congr same).mpr takes)
    cases hp.symm.trans hq
    rw [same, given] at given'
    cases given'
    cases read.symm.trans read'
    rw [found, found']
  · have free := not_exists.mp some
    rw [lookup_of_not_takesAs hrow free]
    exact lookup_of_not_takesAs hother fun slot takes =>
      free slot ((PersistentEntity.takesAs_congr same).mp takes)

/-- A row and a rearranged one with more columns that match no property, when the labels of the
row differ in more than the case of letters.  The properties of both can be read or those of
neither, and both give the same value for each name that not more than one property takes a
column for.  When all names are such, both are read as the same instance or neither is read. -/
theorem read_rearranged (c : EntityConverter) (type : EntityType) {e : PersistentEntity}
    {row other : Row} {more : List (String × Value)}
    (distinct : (row.columns.labels.map Text.foldLabel).Nodup)
    (rearranged : other.cells.Perm (row.cells ++ more))
    (unmatched : ∀ cell ∈ more, ∀ p ∈ e.properties, p.column.matchesLabel cell.1 = false) :
    ((∃ values, c.readProperties e other = .ok values) ↔
        ∃ values, c.readProperties e row = .ok values) ∧
      (∀ others values, c.readProperties e other = .ok others →
        c.readProperties e row = .ok values → ∀ name, e.TakenOnce row.columns name →
          others.entries.lookup name = values.entries.lookup name) ∧
      ((∀ name, e.TakenOnce row.columns name) →
        ∀ i, c.read type e other = .ok i ↔ c.read type e row = .ok i) := by
  have same : e.given? other = e.given? row :=
    PersistentEntity.given?_rearranged distinct rearranged unmatched
  refine ⟨exists_readProperties_congr same,
    fun others values hother hrow name once => lookup_congr same hother hrow once,
    fun once i => ?_⟩
  rw [read, read, Outcome.bind_eq_ok, Outcome.bind_eq_ok]
  constructor
  · rintro ⟨others, hother, made⟩
    obtain ⟨values, hrow⟩ := (exists_readProperties_congr same).mp ⟨others, hother⟩
    rw [Outcome.mapError_eq_ok,
      type.ofProperties_congr fun name => lookup_congr same hother hrow (once name)] at made
    exact ⟨values, hrow, Outcome.mapError_eq_ok.mpr made⟩
  · rintro ⟨values, hrow, made⟩
    obtain ⟨others, hother⟩ := (exists_readProperties_congr same).mpr ⟨values, hrow⟩
    rw [Outcome.mapError_eq_ok,
      ← type.ofProperties_congr fun name => lookup_congr same hother hrow (once name)] at made
    exact ⟨others, hother, Outcome.mapError_eq_ok.mpr made⟩

/-- A row that is too short, and its columns from the last to the first behind two that match
no property and differ in case only. -/
theorem read_rearranged_extra :
    let c : EntityConverter := ⟨Dialect.postgres.conversions [], .postgres⟩
    let type : EntityType := ⟨⟨⟨0⟩, "Person"⟩, .unquoted "person",
      [.ofType "id" (.unquoted "id") ⟨.int64, false⟩ true,
        .ofType "name" (.ofQuoted "Name") ⟨.text, true⟩ false], []⟩
    let e := type.describe
    let row : Row := ⟨.ofLabels ["ID", "name"], [.int 1]⟩
    let other : Row := ⟨.ofLabels ["x", "X", "name", "ID"], [.null, .text "a", .null, .int 1]⟩
    let more : List (String × Value) := [("X", .text "a"), ("x", .null)]
    (row.columns.labels.map Text.foldLabel).Nodup ∧ other.cells.Perm (row.cells ++ more) ∧
      (∀ cell ∈ more, ∀ p ∈ e.properties, p.column.matchesLabel cell.1 = false) ∧
      c.read type e row = .ok ⟨[("id", .bigInt 1), ("name", .null)], []⟩ ∧
      c.read type e other = .ok ⟨[("id", .bigInt 1), ("name", .null)], []⟩ := by
  intro c type e row other more
  have distinct : (row.columns.labels.map Text.foldLabel).Nodup := by decide
  have rearranged : other.cells.Perm (row.cells ++ more) := List.reverse_perm (row.cells ++ more)
  have unmatched : ∀ cell ∈ more, ∀ p ∈ e.properties, p.column.matchesLabel cell.1 = false := by
    decide
  have names : (e.properties.map Property.name).Nodup := by decide
  have read : c.read type e row = .ok ⟨[("id", .bigInt 1), ("name", .null)], []⟩ := rfl
  exact ⟨distinct, rearranged, unmatched, read,
    ((read_rearranged c type distinct rearranged unmatched).2.2
      (PersistentEntity.takenOnce_of_nodup names row.columns) _).mpr read⟩

/-- Two properties of one name that both take a column are given the value of the column that
comes later. -/
theorem read_rearranged_sameName :
    let c : EntityConverter := ⟨Dialect.postgres.conversions [], .postgres⟩
    let type : EntityType := ⟨⟨⟨0⟩, "Dyn"⟩, .unquoted "dyn",
      [.ofType "x" (.unquoted "a") ⟨.int32, false⟩ false,
        .ofType "x" (.unquoted "b") ⟨.int32, false⟩ false], []⟩
    let row : Row := ⟨.ofLabels ["a", "b"], [.int 1, .int 2]⟩
    let other : Row := ⟨.ofLabels ["b", "a"], [.int 2, .int 1]⟩
    type.resolve = .ok type.describe ∧ (row.columns.labels.map Text.foldLabel).Nodup ∧
      other.cells.Perm row.cells ∧
      c.read type type.describe row = .ok ⟨[("x", .int 2), ("x", .int 2)], []⟩ ∧
      c.read type type.describe other = .ok ⟨[("x", .int 1), ("x", .int 1)], []⟩ := by
  intro c type row other
  have rearranged : other.cells.Perm row.cells := List.reverse_perm row.cells
  exact ⟨by decide, by decide, rearranged, rfl, rfl⟩

end EntityConverter

end DataMapper
