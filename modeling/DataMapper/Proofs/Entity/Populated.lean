import DataMapper.Proofs.Entity.Labels
import DataMapper.Proofs.Strategy
import Mathlib.Data.List.Nodup

/-!
# Identifiers taken from a row

Populating goes over the fields of the identifier in order.  A field that has a value keeps
it, and so does one without a column in the row.  Every other field is given what the
converters and the field make of the value in its first column
(`EntityConverter.Fills`), which may be the NULL again.

One step puts what a field is given and touches no other field, so a whole run does to each
field of the identifier what one step does to it, and nothing else
(`EntityConverter.Populated`).  What a field is given it would be given again
(`EntityConverter.Fills.again`), and a run that gives each field what it has changes nothing.

`Strategy.populateId_eq_ok` says which fields take a column (`Field.TakesFrom`), and that
populating twice is populating once.
-/

namespace DataMapper

theorem Value.isNull_iff {value : Value} : value.isNull = true ↔ value = .null := by
  cases value <;> simp [isNull]

/-! ## Instances -/

theorem putNamed_of_lookup {name : String} {value : Value} {entries : List (String × Value)}
    (h : entries.lookup name = some value) : putNamed name value entries = entries := by
  induction entries with
  | nil => cases h
  | cons entry rest ih =>
      rw [List.lookup_cons] at h
      rw [putNamed]
      split
      next same =>
        rw [same, beq_self_eq_true] at h
        rw [← Option.some.inj h]
      next different =>
        rw [beq_false_of_ne (Ne.symm different)] at h
        rw [ih h]

/-- Putting a value of a name that has one keeps the names as they are. -/
theorem map_fst_putNamed {name : String} {entries : List (String × Value)}
    (there : name ∈ entries.map Prod.fst) (value : Value) :
    (putNamed name value entries).map Prod.fst = entries.map Prod.fst := by
  induction entries with
  | nil => cases there
  | cons entry rest ih =>
      rw [putNamed]
      split
      next => rfl
      next different =>
        obtain same | behind := List.mem_cons.mp there
        · exact absurd same.symm different
        · rw [List.map_cons, List.map_cons, ih behind]

namespace Instance

variable {i : Instance} {name other : String} {value : Value}

/-- An instance with a value put into a persistent field. -/
def put (i : Instance) (name : String) (value : Value) : Instance :=
  { i with properties := putNamed name value i.properties }

@[simp] theorem transient_put (i : Instance) (name : String) (value : Value) :
    (i.put name value).transient = i.transient := rfl

theorem get?_put_self (i : Instance) (name : String) (value : Value) :
    (i.put name value).get? name = some value :=
  lookup_putNamed ..

theorem get?_put_of_ne (i : Instance) (different : other ≠ name) (value : Value) :
    (i.put name value).get? other = i.get? other :=
  lookup_putNamed_of_ne different ..

theorem put_of_get? (h : i.get? name = some value) : i.put name value = i := by
  rw [put, putNamed_of_lookup h]

theorem exists_get?_iff :
    (∃ value, i.get? name = some value) ↔ name ∈ i.properties.map Prod.fst := by
  rw [← Option.isSome_iff_exists, get?, List.lookup_isSome_iff, List.mem_map]
  simp only [beq_iff_eq, @eq_comm _ name]

theorem names_put (h : i.get? name = some value) (held : Value) :
    (i.put name held).properties.map Prod.fst = i.properties.map Prod.fst :=
  map_fst_putNamed (exists_get?_iff.mp ⟨value, h⟩) held

end Instance

namespace EntityType

variable {type : EntityType} {f : Field}

/-- A field is found by its name when the names are distinct. -/
theorem field?_eq (names : (type.fields.map fun f => f.name).Nodup) (hf : f ∈ type.fields) :
    type.field? f.name = some f := by
  have there : (type.field? f.name).isSome = true :=
    List.find?_isSome.mpr ⟨f, hf, beq_self_eq_true f.name⟩
  obtain ⟨g, found⟩ := Option.isSome_iff_exists.mp there
  have same : g = f := List.inj_on_of_nodup_map names (List.mem_of_find?_eq_some found) hf
    (beq_iff_eq.mp (List.find?_some (p := fun g : Field => g.name == f.name) found))
  rw [found, same]

/-- A field holds what it makes of a value that is stored in it. -/
theorem setProperty_eq_ok (found : type.field? f.name = some f) {i j : Instance} {value : Value} :
    type.setProperty i f.name value = .ok j ↔
      ∃ held, f.normalise value = .ok held ∧ i.put f.name held = j := by
  rw [setProperty, found]
  simp only [Outcome.map_eq_ok, Outcome.atColumn_eq_ok]
  rfl

end EntityType

namespace EntityConverter

variable {c : EntityConverter} {type : EntityType} {row : Row} {f : Field} {fields : List Field}
  {i result : Instance} {before after : Value}

/-! ## One field -/

/-- What populating does to the value of a field of the identifier: a value stays, the NULL
stays when the field has no column, and becomes what the first column gives when it has. -/
inductive Fills (c : EntityConverter) (row : Row) (f : Field) : Value → Value → Prop where
  | held {value : Value} (present : value.isNull = false) : Fills c row f value value
  | unmatched
      (free : row.columns.findIdx? (fun column => f.column.matchesLabel column.label) = none) :
      Fills c row f .null .null
  | filled {position : Nat} {value held : Value}
      (first :
        row.columns.findIdx? (fun column => f.column.matchesLabel column.label) = some position)
      (read : c.conversions.readValue (row.getOrNull position) f.sqlType = .ok value)
      (stored : f.normalise value = .ok held) : Fills c row f .null held

/-- Populating a field once more does not change it. -/
theorem Fills.again (h : c.Fills row f before after) : c.Fills row f after after := by
  cases h with
  | held present => exact .held present
  | unmatched free => exact .unmatched free
  | filled first read stored =>
      cases absent : after.isNull with
      | false => exact .held absent
      | true =>
          -- the column gave the NULL, and gives it again
          obtain rfl := Value.isNull_iff.mp absent
          exact .filled first read stored

theorem fills_iff_of_present (present : before.isNull = false) :
    c.Fills row f before after ↔ after = before := by
  constructor
  · intro h
    cases h with
    | held => rfl
    | unmatched | filled => cases present
  · rintro rfl
    exact .held present

theorem fills_iff_of_unmatched
    (free : row.columns.findIdx? (fun column => f.column.matchesLabel column.label) = none) :
    c.Fills row f .null after ↔ after = .null := by
  constructor
  · intro h
    cases h with
    | held | unmatched => rfl
    | filled first => cases free.symm.trans first
  · rintro rfl
    exact .unmatched free

theorem fills_iff_of_first {position : Nat}
    (first :
      row.columns.findIdx? (fun column => f.column.matchesLabel column.label) = some position) :
    c.Fills row f .null after ↔
      ∃ value, c.conversions.readValue (row.getOrNull position) f.sqlType = .ok value ∧
        f.normalise value = .ok after := by
  constructor
  · intro h
    cases h with
    | held present => cases present
    | unmatched free => cases free.symm.trans first
    | filled again read stored =>
        cases first.symm.trans again
        exact ⟨_, read, stored⟩
  · rintro ⟨value, read, stored⟩
    exact .filled first read stored

/-- Populating puts what the first field is given, and goes on with the other fields. -/
theorem populateFields_cons_eq_ok (found : type.field? f.name = some f)
    (has : i.get? f.name = some before) {rest : List Property} :
    c.populateFields type row (f.toProperty :: rest) i = .ok result ↔
      ∃ after, c.Fills row f before after ∧
        c.populateFields type row rest (i.put f.name after) = .ok result := by
  rw [populateFields, has, Option.getD_some]
  cases absent : before.isNull with
  | false =>
      rw [if_neg Bool.false_ne_true]
      simp only [fills_iff_of_present absent, exists_eq_left, Instance.put_of_get? has]
  | true =>
      obtain rfl := Value.isNull_iff.mp absent
      rw [if_pos rfl]
      split
      next free =>
        simp only [fills_iff_of_unmatched free, exists_eq_left, Instance.put_of_get? has]
      next position first =>
        simp only [fills_iff_of_first first, Outcome.bind_eq_ok, Outcome.atColumn_eq_ok,
          EntityType.setProperty_eq_ok found]
        constructor
        · rintro ⟨value, read, -, ⟨held, stored, rfl⟩, h⟩
          exact ⟨held, ⟨value, read, stored⟩, h⟩
        · rintro ⟨held, ⟨value, read, stored⟩, h⟩
          exact ⟨value, read, _, ⟨held, stored, rfl⟩, h⟩

/-! ## All fields -/

/-- What a run over fields does to an instance: it fills each of them, and nothing else changes. -/
structure Populated (c : EntityConverter) (row : Row) (fields : List Field)
    (i result : Instance) : Prop where
  transient : result.transient = i.transient
  names : result.properties.map Prod.fst = i.properties.map Prod.fst
  others : ∀ name, name ∉ fields.map (fun f => f.name) → result.get? name = i.get? name
  filled : ∀ f ∈ fields, ∃ before after, i.get? f.name = some before ∧
    result.get? f.name = some after ∧ c.Fills row f before after

/-- A run over one more field fills that field, when no later field has its name. -/
theorem Populated.cons (has : i.get? f.name = some before) (fills : c.Fills row f before after)
    (new : f.name ∉ fields.map fun f => f.name)
    (h : c.Populated row fields (i.put f.name after) result) :
    c.Populated row (f :: fields) i result := by
  constructor
  case transient => rw [h.transient, Instance.transient_put]
  case names => exact h.names.trans (Instance.names_put has after)
  case others =>
    intro name free
    obtain ⟨different, behind⟩ := List.ne_and_not_mem_of_not_mem_cons free
    rw [h.others name behind, Instance.get?_put_of_ne i different]
  case filled =>
    intro g hg
    obtain rfl | later := List.mem_cons.mp hg
    · refine ⟨before, after, has, ?_, fills⟩
      rw [h.others _ new, Instance.get?_put_self]
    · obtain ⟨old, held, got, given, behaves⟩ := h.filled g later
      have different : g.name ≠ f.name := fun same =>
        new (same ▸ List.mem_map_of_mem (f := fun f : Field => f.name) later)
      rw [Instance.get?_put_of_ne i different] at got
      exact ⟨old, held, got, given, behaves⟩

theorem populated_of_populateFields (found : ∀ f ∈ fields, type.field? f.name = some f)
    (names : (fields.map fun f => f.name).Nodup)
    (has : ∀ f ∈ fields, ∃ value, i.get? f.name = some value)
    (h : c.populateFields type row (fields.map Field.toProperty) i = .ok result) :
    c.Populated row fields i result := by
  induction fields generalizing i with
  | nil =>
      cases h
      exact ⟨rfl, rfl, fun _ _ => rfl, fun _ hf => nomatch hf⟩
  | cons f rest ih =>
      obtain ⟨own, later⟩ := List.forall_mem_cons.mp found
      obtain ⟨new, names⟩ := List.nodup_cons.mp names
      obtain ⟨⟨before, hbefore⟩, has⟩ := List.forall_mem_cons.mp has
      obtain ⟨after, fills, h⟩ := (populateFields_cons_eq_ok own hbefore).mp h
      have still : ∀ g ∈ rest, ∃ value, (i.put f.name after).get? g.name = some value := by
        intro g hg
        rw [Instance.exists_get?_iff, Instance.names_put hbefore, ← Instance.exists_get?_iff]
        exact has g hg
      exact .cons hbefore fills new (ih later names still h)

/-- A run that gives each field what it has changes nothing. -/
theorem populateFields_of_fills (found : ∀ f ∈ fields, type.field? f.name = some f)
    (full : ∀ f ∈ fields, ∃ value, i.get? f.name = some value ∧ c.Fills row f value value) :
    c.populateFields type row (fields.map Field.toProperty) i = .ok i := by
  induction fields with
  | nil => rfl
  | cons f rest ih =>
      obtain ⟨own, later⟩ := List.forall_mem_cons.mp found
      obtain ⟨⟨value, has, fills⟩, full⟩ := List.forall_mem_cons.mp full
      refine (populateFields_cons_eq_ok own has).mpr ⟨value, fills, ?_⟩
      rw [Instance.put_of_get? has]
      exact ih later full

/-- What was populated stays as it is when it is populated again. -/
theorem Populated.populateFields_eq (found : ∀ f ∈ fields, type.field? f.name = some f)
    (h : c.Populated row fields i result) :
    c.populateFields type row (fields.map Field.toProperty) result = .ok result := by
  refine populateFields_of_fills found fun f hf => ?_
  obtain ⟨_, after, -, given, fills⟩ := h.filled f hf
  exact ⟨after, given, fills.again⟩

end EntityConverter

/-! ## Identifiers -/

/-- Whether a field takes the column at a position: it belongs to the identifier, an instance has
the NULL for it, and the column is the first one that matches its own. -/
structure Field.TakesFrom (f : Field) (i : Instance) (columns : Columns) (position : Nat) :
    Prop where
  isId : f.isId = true
  absent : i.get? f.name = some .null
  first : columns.findIdx? (fun column => f.column.matchesLabel column.label) = some position

/-- The fields of the identifier in order. -/
def EntityType.idFields (type : EntityType) : List Field := type.fields.filter (·.isId)

theorem EntityType.idProperties_describe (type : EntityType) :
    type.describe.idProperties = type.idFields.map Field.toProperty :=
  List.filter_map ..

namespace EntityConverter

variable {c : EntityConverter} {type : EntityType} {row : Row} {f : Field} {i result : Instance}

/-- A field that takes a column has what the converters and the field make of its value. -/
theorem Populated.of_takesFrom (h : c.Populated row type.idFields i result) (hf : f ∈ type.fields)
    {position : Nat} (takes : f.TakesFrom i row.columns position) :
    ∃ value held, c.conversions.readValue (row.getOrNull position) f.sqlType = .ok value ∧
      f.normalise value = .ok held ∧ result.get? f.name = some held := by
  obtain ⟨before, after, got, given, fills⟩ :=
    h.filled f (List.mem_filter.mpr ⟨hf, takes.isId⟩)
  cases takes.absent.symm.trans got
  obtain ⟨value, read, stored⟩ := (fills_iff_of_first takes.first).mp fills
  exact ⟨value, after, read, stored, given⟩

/-- A field that takes no column stays as it is. -/
theorem Populated.of_not_takesFrom (h : c.Populated row type.idFields i result)
    (names : (type.fields.map fun f => f.name).Nodup) (hf : f ∈ type.fields)
    (free : ∀ position, ¬ f.TakesFrom i row.columns position) :
    result.get? f.name = i.get? f.name := by
  cases id : f.isId with
  | false =>
      refine h.others f.name fun shared => ?_
      obtain ⟨g, hg, same⟩ := List.mem_map.mp shared
      obtain ⟨among, own⟩ := List.mem_filter.mp hg
      obtain rfl := List.inj_on_of_nodup_map names among hf same
      cases id.symm.trans own
  | true =>
      obtain ⟨before, after, got, given, fills⟩ := h.filled f (List.mem_filter.mpr ⟨hf, id⟩)
      cases fills with
      | held | unmatched => rw [got, given]
      | filled first => exact absurd ⟨id, got, first⟩ (free _)

theorem populated_of_populateId (names : (type.fields.map fun f => f.name).Nodup)
    (of : i.properties.map Prod.fst = type.fields.map fun f => f.name)
    (h : c.populateId type type.describe i row = .ok result) :
    c.Populated row type.idFields i result := by
  rw [populateId, type.idProperties_describe] at h
  refine populated_of_populateFields (fun f hf => ?_) ?_ (fun f hf => ?_) h
  · exact EntityType.field?_eq names (List.mem_of_mem_filter hf)
  · exact names.sublist (List.filter_sublist.map _)
  · rw [Instance.exists_get?_iff, of]
    exact List.mem_map_of_mem (f := fun f : Field => f.name) (List.mem_of_mem_filter hf)

end EntityConverter

namespace Strategy

variable {s after : Strategy} {type : EntityType} {i result : Instance} {row : Row}

/-- An instance that was populated has its names and transient fields.  Each field of the
identifier that was the NULL and has a column in the row has what the converters and the field
make of the value in the first such column, and every other field is as it was.  Populating
the result with the same row changes nothing. -/
theorem populateId_eq_ok (known : s.context.Knows type)
    (names : (type.fields.map fun f => f.name).Nodup)
    (of : i.properties.map Prod.fst = type.fields.map fun f => f.name)
    (h : s.populateId type i row = (.ok result, after)) :
    result.transient = i.transient ∧
      result.properties.map Prod.fst = i.properties.map Prod.fst ∧
      (∀ f ∈ type.fields,
        (∀ position, f.TakesFrom i row.columns position →
          ∃ value held, s.conversions.readValue (row.getOrNull position) f.sqlType = .ok value ∧
            f.normalise value = .ok held ∧ result.get? f.name = some held) ∧
        ((∀ position, ¬ f.TakesFrom i row.columns position) →
          result.get? f.name = i.get? f.name)) ∧
      after.populateId type result row = (.ok result, after) := by
  obtain ⟨made, same, found⟩ := withEntity_eq_ok known h
  have populated := EntityConverter.populated_of_populateId names of made
  refine ⟨populated.transient, populated.names, fun f hf => ⟨fun position takes => ?_, ?_⟩, ?_⟩
  · exact populated.of_takesFrom hf takes
  · exact populated.of_not_takesFrom names hf
  · have again : s.converter.populateId type type.describe result row = .ok result := by
      rw [EntityConverter.populateId, type.idProperties_describe]
      exact populated.populateFields_eq fun f hf =>
        EntityType.field?_eq names (List.mem_of_mem_filter hf)
    rw [populateId, withEntity_eq_of_find? _ found, same, again]

/-- Of three fields of the identifier one has a value and keeps it, one takes the first of two
columns that match, and one takes the NULL that a short row has.  A field that is not of the
identifier takes nothing. -/
theorem populateId_composite :
    let s := Strategy.new .postgres [] .empty 0
    let type : EntityType := ⟨⟨⟨0⟩, "Line"⟩, .unquoted "line",
      [.ofType "order" (.unquoted "order_id") ⟨.int64, true⟩ true,
        .ofType "number" (.unquoted "number") ⟨.int32, true⟩ true,
        .ofType "tenant" (.ofQuoted "Tenant") ⟨.text, true⟩ true,
        .ofType "note" (.unquoted "note") ⟨.text, true⟩ false], [("cached", .bool true)]⟩
    let i : Instance :=
      ⟨[("order", .null), ("number", .int 3), ("tenant", .null), ("note", .null)],
        [("cached", .bool false)]⟩
    let row : Row := ⟨.ofLabels ["Order_Id", "order_id", "number", "note", "TENANT"],
      [.int 7, .int 8, .int 9, .text "x"]⟩
    let result : Instance :=
      ⟨[("order", .bigInt 7), ("number", .int 3), ("tenant", .null), ("note", .null)],
        [("cached", .bool false)]⟩
    let after := (s.populateId type i row).2
    s.context.Knows type ∧ (type.fields.map fun f => f.name).Nodup ∧
      i.properties.map Prod.fst = type.fields.map (fun f => f.name) ∧
      s.populateId type i row = (.ok result, after) ∧
      after.populateId type result row = (.ok result, after) := by
  intro s type i row result after
  have known : s.context.Knows type := MappingContext.knows_empty type
  have names : (type.fields.map fun f => f.name).Nodup := by decide
  have of : i.properties.map Prod.fst = type.fields.map fun f => f.name := rfl
  have h : s.populateId type i row = (.ok result, after) := rfl
  obtain ⟨-, -, -, again⟩ := populateId_eq_ok known names of h
  exact ⟨known, names, of, h, again⟩

end Strategy

end DataMapper
