import DataMapper.Entity.Transfer
import DataMapper.Proofs.Outcome
import DataMapper.Proofs.OutboundRow

/-!
# What an outbound row holds

The outbound row of an instance is made in two rounds.  The first puts the values
of all properties, converted and typed, and the second goes over the collections
and puts them again as arrays of the dialect.  For one property the rounds come
one after the other (`EntityConverter.outboundValue`).

When the properties of an entity can be told apart by name and by column
(`PersistentEntity.Apart`), no round touches what belongs to another property.  So
once every value was written the row is made property by property
(`EntityConverter.outboundRow_eq`), and it has one entry for each property in their
order (`EntityConverter.entries_of_outboundRow`).

A label in a row tells properties apart only where the case of ASCII letters does
not matter (`PersistentEntity.Distinct`).
-/

namespace DataMapper

/-- Whether properties are told apart by name, and no two have equivalent columns. -/
structure PersistentEntity.Apart (e : PersistentEntity) : Prop where
  names : (e.properties.map Property.name).Nodup
  columns : e.properties.Pairwise fun p q => p.column.equiv q.column = false

/-- Whether properties are told apart by name, and by column when the case of
ASCII letters is passed over. -/
structure PersistentEntity.Distinct (e : PersistentEntity) : Prop where
  names : (e.properties.map Property.name).Nodup
  labels : (e.properties.map fun p => Text.foldLabel p.column.name).Nodup

namespace PersistentEntity

variable {e : PersistentEntity} {before rest : List Property} {p : Property}

/-- Columns that differ in more than the case of letters are not equivalent. -/
theorem Distinct.apart (distinct : e.Distinct) : e.Apart where
  names := distinct.names
  columns := (List.pairwise_map.mp distinct.labels).imp Identifier.equiv_eq_false

/-- A property is found by its name. -/
theorem Apart.property?_eq (apart : e.Apart) (whole : e.properties = before ++ p :: rest) :
    e.property? p.name = some p := by
  have names := apart.names
  rw [whole, List.map_append, List.nodup_append] at names
  have none : before.find? (fun q => q.name == p.name) = none := by
    rw [List.find?_eq_none]
    intro q hq same
    refine names.2.2 q.name (List.mem_map_of_mem hq) p.name ?_ (eq_of_beq same)
    exact List.mem_map_of_mem (List.mem_cons_self ..)
  rw [property?, whole, List.find?_append, none, List.find?_cons, beq_self_eq_true]
  rfl

/-- Entries with the columns of the properties before one have other columns. -/
theorem Apart.forall_equiv_eq_false (apart : e.Apart) (whole : e.properties = before ++ p :: rest)
    {entries : List (Identifier × Settable)}
    (columns : entries.map (·.1) = before.map Property.column) :
    ∀ entry ∈ entries, entry.1.equiv p.column = false := by
  intro entry hentry
  have there : entry.1 ∈ before.map Property.column := by
    rw [← columns]
    exact List.mem_map_of_mem hentry
  obtain ⟨q, hq, same⟩ := List.mem_map.mp there
  have others := apart.columns
  rw [whole, List.pairwise_append] at others
  rw [← same]
  exact others.2.2 q hq p (List.mem_cons_self ..)

/-- The properties before one have other labels. -/
theorem Distinct.label_ne (distinct : e.Distinct) (whole : e.properties = before ++ p :: rest)
    {q : Property} (hq : q ∈ before) :
    Text.foldLabel q.column.name ≠ Text.foldLabel p.column.name := by
  have labels := distinct.labels
  rw [whole, List.map_append, List.nodup_append] at labels
  refine labels.2.2 _ (List.mem_map_of_mem hq) _ ?_
  exact List.mem_map_of_mem (f := fun r : Property => Text.foldLabel r.column.name)
    (List.mem_cons_self ..)

end PersistentEntity

namespace EntityConverter

variable {c : EntityConverter} {e : PersistentEntity} {value : String → Value}
  {before rest : List Property} {p : Property}

/-- What an outbound row holds for a value of a property. -/
def outboundValue (c : EntityConverter) (p : Property) (value : Value) : Except Error Settable := do
  let written ← c.writeProperty p value
  if p.isCollection then c.arrayValue written p else .ok written

/-- The entry of an outbound row for a property. -/
def outboundEntry (c : EntityConverter) (value : String → Value) (p : Property) :
    Except Error (Identifier × Settable) :=
  (c.outboundValue p (value p.name)).map fun settable => (p.column, settable)

/-- Entries that hold the values of properties as they are converted and typed. -/
def Written (c : EntityConverter) (value : String → Value) :
    List Property → List (Identifier × Settable) → Prop :=
  List.Forall₂ fun p entry =>
    entry.1 = p.column ∧ c.writeProperty p (value p.name) = .ok entry.2

/-- Entries that hold the values of properties as an outbound row does. -/
def Outbound (c : EntityConverter) (value : String → Value) :
    List Property → List (Identifier × Settable) → Prop :=
  List.Forall₂ fun p entry =>
    entry.1 = p.column ∧ c.outboundValue p (value p.name) = .ok entry.2

theorem outbound_of_mapM {properties : List Property} {entries : List (Identifier × Settable)}
    (h : properties.mapM (c.outboundEntry value) = .ok entries) :
    c.Outbound value properties entries := by
  refine (Outcome.mapM_eq_ok_iff_forall₂.mp h).imp fun p entry hentry => ?_
  obtain ⟨settable, hsettable, rfl⟩ := Outcome.map_eq_ok.mp hentry
  exact ⟨rfl, hsettable⟩

/-! ## Rounds -/

/-- One more property has one more column. -/
theorem map_fst_append_singleton {entries : List (Identifier × Settable)}
    (columns : entries.map (·.1) = before.map Property.column) (p : Property)
    (settable : Settable) :
    (entries ++ [(p.column, settable)]).map (·.1) = (before ++ [p]).map Property.column := by
  rw [List.map_append, List.map_append, columns]
  rfl

/-- Writing a property adds an entry to those of the properties before it. -/
theorem writeInto_cons (apart : e.Apart) (whole : e.properties = before ++ p :: rest)
    {entries : List (Identifier × Settable)}
    (columns : entries.map (·.1) = before.map Property.column) {settable : Settable} {v : Value}
    (written : c.writeProperty p v = .ok settable) (others : List (String × Value)) :
    c.writeInto e ((p.name, v) :: others) ⟨entries⟩
      = c.writeInto e others ⟨entries ++ [(p.column, settable)]⟩ := by
  rw [writeInto, apart.property?_eq whole]
  simp only [written]
  rw [OutboundRow.put, OutboundRow.putEntry_of_forall (apart.forall_equiv_eq_false whole columns)]

/-- The first round adds an entry for each property. -/
theorem writeInto_eq (apart : e.Apart) (whole : e.properties = before ++ rest)
    {entries written : List (Identifier × Settable)}
    (columns : entries.map (·.1) = before.map Property.column)
    (hwritten : c.Written value rest written) :
    c.writeInto e (rest.map fun p => (p.name, value p.name)) ⟨entries⟩
      = (.ok (), ⟨entries ++ written⟩) := by
  induction hwritten generalizing before entries with
  | nil => rw [List.append_nil]; rfl
  | @cons p entry rest written hentry hwritten ih =>
      obtain ⟨column, settable⟩ := entry
      obtain ⟨rfl, hwrite⟩ := hentry
      have later : e.properties = (before ++ [p]) ++ rest := by
        rw [whole, List.append_assoc, List.singleton_append]
      rw [List.map_cons, writeInto_cons apart whole columns hwrite,
        ih later (map_fst_append_singleton columns p settable), List.append_assoc,
        List.singleton_append]

/-- When the first round succeeds each value was written. -/
theorem exists_written_of_writeInto (apart : e.Apart) (whole : e.properties = before ++ rest)
    {sink row : OutboundRow}
    (h : c.writeInto e (rest.map fun p => (p.name, value p.name)) sink = (.ok (), row)) :
    ∃ written, c.Written value rest written := by
  induction rest generalizing before sink with
  | nil => exact ⟨[], .nil⟩
  | cons p rest ih =>
      rw [List.map_cons, writeInto, apart.property?_eq whole] at h
      simp only at h
      split at h
      next => cases h
      next settable hsettable =>
        have later : e.properties = (before ++ [p]) ++ rest := by
          rw [whole, List.append_assoc, List.singleton_append]
        obtain ⟨written, hwritten⟩ := ih later h
        exact ⟨(p.column, settable) :: written, .cons ⟨rfl, hsettable⟩ hwritten⟩

/-- Going over a property changes its entry where it stands. -/
theorem coerceCollections_cons (apart : e.Apart) (whole : e.properties = before ++ p :: rest)
    {done : List (Identifier × Settable)}
    (columns : done.map (·.1) = before.map Property.column) {settable : Settable} {v : Value}
    (written : c.writeProperty p v = .ok settable) (others : List (Identifier × Settable)) :
    c.coerceCollections (p :: rest) ⟨done ++ (p.column, settable) :: others⟩
      = c.outboundValue p v >>= fun coerced =>
        c.coerceCollections rest ⟨done ++ (p.column, coerced) :: others⟩ := by
  have behind := apart.forall_equiv_eq_false whole columns
  have once : c.outboundValue p v
      = if p.isCollection then c.arrayValue settable p else .ok settable := by
    rw [outboundValue, written]
    rfl
  rw [coerceCollections, once]
  cases p.isCollection with
  | false => rfl
  | true =>
      rw [if_pos rfl, if_pos rfl, OutboundRow.get?_append_cons behind]
      simp only [OutboundRow.put, OutboundRow.putEntry_append_cons behind]

/-- The second round changes the entries of collections where they stand. -/
theorem coerceCollections_eq (apart : e.Apart) (whole : e.properties = before ++ rest)
    {done entries : List (Identifier × Settable)}
    (columns : done.map (·.1) = before.map Property.column)
    (written : c.Written value rest entries) :
    c.coerceCollections rest ⟨done ++ entries⟩
      = (rest.mapM (c.outboundEntry value)).map fun coerced => ⟨done ++ coerced⟩ := by
  -- `done` grows by the entry of each property, so the induction is for all of them.
  induction written generalizing before done with
  | nil => rfl
  | @cons p entry rest others hentry written ih =>
      obtain ⟨column, settable⟩ := entry
      obtain ⟨rfl, hwrite⟩ := hentry
      have later : e.properties = (before ++ [p]) ++ rest := by
        rw [whole, List.append_assoc, List.singleton_append]
      rw [coerceCollections_cons apart whole columns hwrite]
      cases hcoerced : c.outboundValue p (value p.name) with
      | error refused =>
          have refuses : c.outboundEntry value p = .error refused := by
            rw [outboundEntry, hcoerced]
            rfl
          rw [Outcome.mapM_cons_of_error refuses]
          rfl
      | ok coerced =>
          have gives : c.outboundEntry value p = .ok (p.column, coerced) := by
            rw [outboundEntry, hcoerced]
            rfl
          have grown := ih later (map_fst_append_singleton columns p coerced)
          simp only [List.append_assoc, List.singleton_append] at grown
          rw [Outcome.mapM_cons_of_ok gives]
          refine grown.trans ?_
          cases rest.mapM (c.outboundEntry value) <;> rfl

/-! ## Rows -/

/-- When each value is written, an outbound row is made property by property. -/
theorem outboundRow_eq (apart : e.Apart) {i : Instance}
    (holds : i.properties = e.properties.map fun p => (p.name, value p.name))
    {written : List (Identifier × Settable)} (hwritten : c.Written value e.properties written) :
    c.outboundRow e i = (e.properties.mapM (c.outboundEntry value)).map .mk := by
  have whole : e.properties = [] ++ e.properties := rfl
  have none : ([] : List (Identifier × Settable)).map (·.1) = [].map Property.column := rfl
  have first := writeInto_eq apart whole none hwritten
  rw [outboundRow, holds, OutboundRow.empty, first]
  exact coerceCollections_eq apart whole none hwritten

/-- An outbound row has an entry for each property, in their order. -/
theorem entries_of_outboundRow (apart : e.Apart) (value : String → Value) {i : Instance}
    (holds : i.properties = e.properties.map fun p => (p.name, value p.name)) {row : OutboundRow}
    (h : c.outboundRow e i = .ok row) : c.Outbound value e.properties row.entries := by
  have whole : e.properties = [] ++ e.properties := rfl
  have first : ∃ start, c.writeInto e i.properties .empty = (.ok (), start) := by
    rw [outboundRow] at h
    split at h
    next => cases h
    next start hstart => exact ⟨start, hstart⟩
  obtain ⟨start, hstart⟩ := first
  rw [holds] at hstart
  obtain ⟨written, hwritten⟩ := exists_written_of_writeInto apart whole hstart
  rw [outboundRow_eq apart holds hwritten] at h
  obtain ⟨entries, hentries, rfl⟩ := Outcome.map_eq_ok.mp h
  exact outbound_of_mapM hentries

end EntityConverter

end DataMapper
