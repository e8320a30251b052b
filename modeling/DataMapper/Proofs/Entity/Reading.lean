import DataMapper.Proofs.Entity.Outbound

/-!
# Reading a row with a column for each property

A row that has the columns of an entity, in the order of its properties, is read
property by property.  Each column goes to its own property, which no column
before it matched, and no property is missing at the end.  So the properties have
what their values are read as (`EntityConverter.readProperties_eq`).
-/

namespace DataMapper

/-! ## Named values -/

/-- A new name is added at the end. -/
theorem putNamed_of_forall {name : String} {value : Value} {entries : List (String × Value)}
    (h : ∀ entry ∈ entries, entry.1 ≠ name) :
    putNamed name value entries = entries ++ [(name, value)] := by
  induction entries with
  | nil => rfl
  | cons entry rest ih =>
      obtain ⟨first, later⟩ := List.forall_mem_cons.mp h
      rw [putNamed, if_neg first, ih later]
      rfl

/-- The value of a name among values by name. -/
theorem lookup_map_of_mem {names : List String} (value : String → Value) {name : String}
    (h : name ∈ names) :
    (names.map fun name => (name, value name)).lookup name = some (value name) := by
  induction names with
  | nil => cases h
  | cons first rest ih =>
      rw [List.map_cons]
      by_cases same : name = first
      · subst same
        exact List.lookup_cons_self
      · have other : (name == first) = false := beq_eq_false_iff_ne.mpr same
        rw [List.lookup_cons, other]
        exact ih ((List.mem_cons.mp h).resolve_left same)

namespace EntityConverter

variable {c : EntityConverter} {e : PersistentEntity} {value : String → Value}

/-- Values of a row that are read, each towards the type of its property, as given values. -/
def ReadsAs (c : EntityConverter) (value : String → Value) : List Property → List Value → Prop :=
  List.Forall₂ fun p raw => c.conversions.readValue raw p.sqlType = .ok (value p.name)

/-- The columns of properties, as a driver labels them. -/
def columnsOf (properties : List Property) : Columns :=
  .ofLabels (properties.map fun p => p.column.name)

/-- What properties are read as, with all of them seen. -/
def stateOf (value : String → Value) (properties : List Property) : ReadState :=
  ⟨(List.range properties.length).reverse, ⟨properties.map fun p => (p.name, value p.name)⟩⟩

/-- The column of a property goes to that property. -/
theorem slotOf?_eq (distinct : e.Distinct) {before rest : List Property} {p : Property}
    (whole : e.properties = before ++ p :: rest) :
    e.slotOf? p.column.name = some before.length := by
  have none : before.findIdx? (fun q => q.column.matchesLabel p.column.name) = none := by
    rw [List.findIdx?_eq_none_iff]
    intro q hq
    exact beq_eq_false_iff_ne.mpr (distinct.label_ne whole hq)
  have own : p.column.matchesLabel p.column.name = true := beq_self_eq_true _
  rw [PersistentEntity.slotOf?, whole, List.findIdx?_append, none, List.findIdx?_cons, own]
  simp

/-- The columns of properties after others are read one by one. -/
theorem readColumns_eq (distinct : e.Distinct) {row : Row} {before rest : List Property}
    (whole : e.properties = before ++ rest) {first raws : List Value}
    (values : row.values = first ++ raws) (same : first.length = before.length)
    (reads : c.ReadsAs value rest raws) :
    c.readColumns e row before.length (columnsOf rest) (stateOf value before)
      = .ok (stateOf value e.properties) := by
  induction reads generalizing before first with
  | nil =>
      rw [whole, List.append_nil]
      rfl
  | @cons p raw rest raws hread reads ih =>
      have unseen : (stateOf value before).seen.contains before.length = false := by
        rw [stateOf, List.contains_eq_mem]
        simp
      have here : e.properties[before.length]? = some p := by
        rw [whole, List.getElem?_append_right (Nat.le_refl _), Nat.sub_self]
        rfl
      have given : row.getOrNull before.length = raw := by
        rw [Row.getOrNull, Row.get?, values, ← same, List.getElem?_append_right (Nat.le_refl _),
          Nat.sub_self]
        rfl
      have grown : stateOf value (before ++ [p]) = ⟨before.length :: (stateOf value before).seen,
          (stateOf value before).values.insert p.name (value p.name)⟩ := by
        have names := distinct.names
        rw [whole, List.map_append, List.nodup_append] at names
        have new : ∀ entry ∈ before.map (fun q => (q.name, value q.name)), entry.1 ≠ p.name := by
          intro entry hentry
          obtain ⟨q, hq, rfl⟩ := List.mem_map.mp hentry
          exact names.2.2 q.name (List.mem_map_of_mem hq) p.name
            (List.mem_map_of_mem (List.mem_cons_self ..))
        rw [stateOf, stateOf, PropertyValues.insert, putNamed_of_forall new, List.map_append,
          List.length_append, List.length_singleton, List.range_succ, List.reverse_append]
        rfl
      have later : e.properties = (before ++ [p]) ++ rest := by
        rw [whole, List.append_assoc, List.singleton_append]
      have taken : row.values = (first ++ [raw]) ++ raws := by
        rw [values, List.append_assoc, List.singleton_append]
      have count : (first ++ [raw]).length = (before ++ [p]).length := by
        rw [List.length_append, List.length_append, same]
        rfl
      have next := ih later taken count
      rw [columnsOf, List.map_cons, Columns.ofLabels, List.map_cons, readColumns,
        slotOf?_eq distinct whole]
      simp only [unseen, here, given, hread]
      rw [List.length_append, List.length_singleton, grown] at next
      exact next

/-- Properties that can be NULL or were seen are passed over. -/
theorem missing?_append {seen : List Nat} {slot : Nat} {before : List Property}
    (fine : ∀ k p, before[k]? = some p → p.nullable = true ∨ seen.contains (slot + k) = true)
    (rest : List Property) :
    missing? seen slot (before ++ rest) = missing? seen (slot + before.length) rest := by
  induction before generalizing slot with
  | nil => rfl
  | cons p before ih =>
      have first : (!seen.contains slot && !p.nullable) = false := by
        rcases fine 0 p rfl with nullable | found
        · rw [nullable, Bool.not_true, Bool.and_false]
        · rw [Nat.add_zero] at found
          rw [found, Bool.not_true, Bool.false_and]
      rw [List.cons_append, missing?, first, List.length_cons, Nat.add_comm before.length,
        ← Nat.add_assoc]
      refine ih fun k q hq => ?_
      rw [Nat.add_assoc, Nat.add_comm 1]
      exact fine (k + 1) q hq

/-- No property is missing when each can be NULL or was seen. -/
theorem missing?_eq_none {seen : List Nat} {properties : List Property}
    (fine : ∀ k p, properties[k]? = some p → p.nullable = true ∨ seen.contains k = true) :
    missing? seen 0 properties = none := by
  rw [← List.append_nil properties, missing?_append]
  · rfl
  · simpa only [Nat.zero_add] using fine

/-- When no property is missing each can be NULL or was seen. -/
theorem forall_of_missing? {seen : List Nat} {slot : Nat} {properties : List Property}
    (none : missing? seen slot properties = none) :
    ∀ k p, properties[k]? = some p → p.nullable = true ∨ seen.contains (slot + k) = true := by
  induction properties generalizing slot with
  | nil => exact fun _ _ hp => nomatch hp
  | cons first rest ih =>
      rw [missing?] at none
      split at none
      next => cases none
      next fine =>
        rintro (_ | k) p hp
        · cases hp
          rw [Bool.and_eq_true, not_and_or, Bool.not_eq_true, Bool.not_eq_true,
            Bool.not_eq_false', Bool.not_eq_false'] at fine
          exact fine.symm
        · have later := ih none k p hp
          rwa [Nat.add_assoc, Nat.add_comm 1] at later

/-- A row with a column for each property is read property by property. -/
theorem readProperties_eq (distinct : e.Distinct) {row : Row}
    (columns : row.columns = columnsOf e.properties)
    (reads : c.ReadsAs value e.properties row.values) :
    c.readProperties e row = .ok ⟨e.properties.map fun p => (p.name, value p.name)⟩ := by
  have whole : e.properties = [] ++ e.properties := rfl
  have values : row.values = [] ++ row.values := rfl
  have all := readColumns_eq distinct whole values rfl reads
  have seen : missing? (stateOf value e.properties).seen 0 e.properties = none := by
    refine missing?_eq_none fun k p hp => .inr ?_
    obtain ⟨bound, -⟩ := List.getElem?_eq_some_iff.mp hp
    rw [stateOf, List.contains_eq_mem]
    simpa using bound
  rw [readProperties, columns]
  refine Outcome.bind_eq_ok.mpr ⟨_, all, ?_⟩
  rw [seen]
  rfl

end EntityConverter

end DataMapper
