import DataMapper.Proofs.Entity.Reading

/-!
# Properties and the labels of columns

A description is valid when no two of its columns are equivalent, and a driver's column
goes to the first property whose column matches its label.  The two notions differ for
columns that only quotes tell apart (`Identifier.Confusable`): quoted columns of which the
letter case differs, and a quoted column beside an unquoted one.

So a property takes a column of a row (`PersistentEntity.taken?`) exactly when no property
before it has a confusable column.  `EntityConverter.Reads` is what the reading of columns
keeps, each with the last value for each name.  `EntityConverter.exists_readProperties_iff` says
which rows are read, and `EntityConverter.readProperties_labelled` what becomes of a property
whose own column is in the row.
-/

namespace DataMapper

/-! ## Columns that only quotes tell apart -/

namespace Identifier

/-- Whether one label matches both of two identifiers of which at least one is quoted. -/
def Confusable (a b : Identifier) : Prop :=
  (a.quoted || b.quoted) = true ∧ a.matchesLabel b.name = true

instance (a b : Identifier) : Decidable (a.Confusable b) := inferInstanceAs (Decidable (_ ∧ _))

theorem matchesLabel_iff {i : Identifier} {label : String} :
    i.matchesLabel label = true ↔ Text.foldLabel i.name = Text.foldLabel label := by
  rw [matchesLabel, Text.sameLabel, beq_iff_eq]

theorem matchesLabel_self (i : Identifier) : i.matchesLabel i.name = true :=
  matchesLabel_iff.mpr rfl

/-- A label of one identifier matches another when the names of the two match. -/
theorem matchesLabel_congr {i : Identifier} {a b : String}
    (same : Text.foldLabel a = Text.foldLabel b) : i.matchesLabel a = i.matchesLabel b := by
  rw [matchesLabel, matchesLabel, Text.sameLabel, Text.sameLabel, same]

/-- Identifiers without quotes are equivalent when one matches the name of the other. -/
theorem equiv_of_unquoted {a b : Identifier} (none : (a.quoted || b.quoted) = false) :
    a.equiv b = a.matchesLabel b.name := by
  obtain ⟨ha, hb⟩ := Bool.or_eq_false_iff.mp none
  rw [Bool.eq_iff_iff, equiv_iff, matchesLabel_iff]
  simp [key, ha, hb]

/-- Identifiers that are not equivalent but match are confusable. -/
theorem confusable_iff {a b : Identifier} (apart : a.equiv b = false) :
    a.Confusable b ↔ a.matchesLabel b.name = true := by
  refine and_iff_right_of_imp fun same => ?_
  rw [← Bool.not_eq_false]
  intro none
  rw [equiv_of_unquoted none, same] at apart
  cases apart

end Identifier

namespace PersistentEntity

variable {e : PersistentEntity} {before after : List Property} {p : Property}

/-- Properties are valid when each column has a name and is equivalent to none that is taken,
and to none of the properties before it. -/
theorem propertyFault?_eq_none_iff {taken : List Identifier} {properties : List Property} :
    propertyFault? taken properties = none ↔
      (∀ p ∈ properties, p.column.name.isEmpty = false) ∧
      (∀ p ∈ properties, ∀ column ∈ taken, column.equiv p.column = false) ∧
      properties.Pairwise fun p q => p.column.equiv q.column = false := by
  induction properties generalizing taken with
  | nil => simp [propertyFault?]
  | cons p rest ih =>
      rw [propertyFault?, List.forall_mem_cons, List.forall_mem_cons, List.pairwise_cons]
      split
      next empty => simp [empty]
      next named =>
        split
        next shared =>
          obtain ⟨column, among, same⟩ := List.any_eq_true.mp shared
          refine iff_of_false nofun ?_
          rintro ⟨-, ⟨free, -⟩, -⟩
          cases (free column among).symm.trans same
        next free =>
          have none : ∀ column ∈ taken, column.equiv p.column = false := fun column among =>
            Bool.eq_false_iff.mpr fun same => free (List.any_eq_true.mpr ⟨_, among, same⟩)
          simp only [ih, List.forall_mem_cons, forall_and]
          constructor
          · rintro ⟨names, ⟨first, later⟩, apart⟩
            exact ⟨⟨Bool.eq_false_iff.mpr named, names⟩, ⟨none, later⟩, first, apart⟩
          · rintro ⟨⟨-, names⟩, ⟨-, later⟩, first, apart⟩
            exact ⟨names, ⟨first, later⟩, apart⟩

/-- A property before another in a valid description has a column that is confusable with
the other's if one label matches both. -/
theorem confusable_iff_of_validate (valid : e.validate = .ok e)
    (whole : e.properties = before ++ p :: after) {q : Property} (hq : q ∈ before) :
    q.column.Confusable p.column ↔ q.column.matchesLabel p.column.name = true := by
  have sound : propertyFault? [] e.properties = none := by
    rw [validate] at valid
    split at valid
    next => cases valid
    next h =>
      rw [fault?] at h
      split at h
      next => cases h
      next => exact h
  obtain ⟨-, -, apart⟩ := propertyFault?_eq_none_iff.mp sound
  rw [whole, List.pairwise_append] at apart
  exact Identifier.confusable_iff (apart.2.2 q hq p (List.mem_cons_self ..))

/-! ## The columns that properties take -/

/-- The position of the column that the property at a slot takes, the first one that goes
to the property. -/
def taken? (e : PersistentEntity) (columns : Columns) (slot : Nat) : Option Nat :=
  columns.findIdx? fun column => e.slotOf? column.label == some slot

/-- Whether each property takes a column or can be NULL. -/
def Served (e : PersistentEntity) (columns : Columns) : Prop :=
  ∀ slot p, e.properties[slot]? = some p →
    p.nullable = true ∨ (e.taken? columns slot).isSome = true

/-- Whether no property of a name takes a column behind a position. -/
def IsLastNamed (e : PersistentEntity) (columns : Columns) (name : String) (position : Nat) :
    Prop :=
  ∀ slot q later, e.properties[slot]? = some q → q.name = name →
    e.taken? columns slot = some later → later ≤ position

/-- A column goes to a property whose column matches its label when none before it does. -/
theorem slotOf?_eq_some_iff (whole : e.properties = before ++ p :: after) {label : String} :
    e.slotOf? label = some before.length ↔
      p.column.matchesLabel label = true ∧ ∀ q ∈ before, q.column.matchesLabel label = false := by
  have here : (before ++ p :: after)[before.length]? = some p := by simp
  rw [slotOf?, whole, List.findIdx?_eq_some_iff_getElem]
  constructor
  · rintro ⟨bound, own, others⟩
    rw [List.getElem?_eq_getElem bound, Option.some.injEq] at here
    rw [here] at own
    refine ⟨own, fun q hq => ?_⟩
    obtain ⟨j, hj, rfl⟩ := List.getElem_of_mem hq
    have other := others j hj
    rw [List.getElem_append_left hj, Bool.not_eq_true] at other
    exact other
  · rintro ⟨own, others⟩
    obtain ⟨bound, same⟩ := List.getElem?_eq_some_iff.mp here
    refine ⟨bound, same.symm ▸ own, fun j hj => ?_⟩
    rw [List.getElem_append_left hj, Bool.not_eq_true]
    exact others _ (List.getElem_mem hj)

theorem exists_of_slotOf? {label : String} {slot : Nat} (h : e.slotOf? label = some slot) :
    ∃ p, e.properties[slot]? = some p ∧ p.column.matchesLabel label = true := by
  obtain ⟨bound, own, -⟩ := List.findIdx?_eq_some_iff_getElem.mp h
  exact ⟨e.properties[slot], List.getElem?_eq_getElem bound, own⟩

/-- The column that a property takes is the first that matches its label, when no property
before it has the label. -/
theorem taken?_of_free (whole : e.properties = before ++ p :: after)
    (free : ∀ q ∈ before, q.column.matchesLabel p.column.name = false) (columns : Columns) :
    e.taken? columns before.length
      = columns.findIdx? fun column => p.column.matchesLabel column.label := by
  refine congrArg (List.findIdx? · columns) (funext fun column => ?_)
  rw [Bool.eq_iff_iff, beq_iff_eq, slotOf?_eq_some_iff whole]
  refine and_iff_left_of_imp fun same q hq => ?_
  rw [← Identifier.matchesLabel_congr (Identifier.matchesLabel_iff.mp same)]
  exact free q hq

/-- A property takes no column when a property before it has its label. -/
theorem taken?_of_shadowed (whole : e.properties = before ++ p :: after) {q : Property}
    (hq : q ∈ before) (same : q.column.matchesLabel p.column.name = true) (columns : Columns) :
    e.taken? columns before.length = none := by
  rw [taken?, List.findIdx?_eq_none_iff]
  intro column _
  rw [beq_eq_false_iff_ne, Ne, slotOf?_eq_some_iff whole]
  rintro ⟨own, others⟩
  have first := others q hq
  rw [← Identifier.matchesLabel_congr (Identifier.matchesLabel_iff.mp own), same] at first
  cases first

/-- A column that is taken stays taken when more columns follow. -/
theorem taken?_append {columns : Columns} {slot position : Nat}
    (h : e.taken? columns slot = some position) (more : Columns) :
    e.taken? (columns ++ more) slot = some position := by
  rw [taken?] at h
  rw [taken?, List.findIdx?_append, h, Option.some_or]

theorem taken?_of_append {columns more : Columns} {slot : Nat}
    (h : e.taken? (columns ++ more) slot = none) : e.taken? columns slot = none := by
  rw [taken?, List.findIdx?_append, Option.or_eq_none_iff] at h
  exact h.1

theorem taken?_lt {columns : Columns} {slot position : Nat}
    (h : e.taken? columns slot = some position) : position < columns.length :=
  (List.findIdx?_eq_some_iff_getElem.mp h).1

theorem IsLastNamed.of_append {columns more : Columns} {name : String} {position : Nat}
    (h : e.IsLastNamed (columns ++ more) name position) :
    e.IsLastNamed columns name position :=
  fun slot q later hq hname taken => h slot q later hq hname (taken?_append taken more)

/-- One more column is taken by the property it goes to, unless that has one already. -/
theorem taken?_concat (columns : Columns) (column : Column) (slot : Nat) :
    e.taken? (columns ++ [column]) slot
      = (e.taken? columns slot).or
          (if e.slotOf? column.label = some slot then some columns.length else none) := by
  rw [taken?, List.findIdx?_append, List.findIdx?_singleton]
  by_cases goes : e.slotOf? column.label = some slot
  · rw [if_pos goes, if_pos (beq_iff_eq.mpr goes), Option.map_some, Nat.zero_add]
    rfl
  · rw [if_neg goes, if_neg fun same => goes (beq_iff_eq.mp same), Option.map_none]
    rfl

/-- A column that goes to a property without one is taken. -/
theorem taken?_concat_self {columns : Columns} {column : Column} {slot : Nat}
    (goes : e.slotOf? column.label = some slot) (new : e.taken? columns slot = none) :
    e.taken? (columns ++ [column]) slot = some columns.length := by
  rw [taken?_concat, new, if_pos goes, Option.none_or]

theorem taken?_concat_of_ne {columns : Columns} {column : Column} {slot : Nat}
    (elsewhere : e.slotOf? column.label ≠ some slot) :
    e.taken? (columns ++ [column]) slot = e.taken? columns slot := by
  rw [taken?_concat, if_neg elsewhere, Option.or_none]

end PersistentEntity

/-! ## What reading keeps -/

theorem lookup_putNamed (name : String) (value : Value) (entries : List (String × Value)) :
    (putNamed name value entries).lookup name = some value := by
  induction entries with
  | nil => exact List.lookup_cons_self
  | cons entry rest ih =>
      rw [putNamed]
      split
      next same =>
        rw [same]
        exact List.lookup_cons_self
      next different =>
        rw [List.lookup_cons, beq_false_of_ne (Ne.symm different)]
        exact ih

/-- Putting a value leaves those of other names as they are. -/
theorem lookup_putNamed_of_ne {name other : String} (different : other ≠ name) (value : Value)
    (entries : List (String × Value)) :
    (putNamed name value entries).lookup other = entries.lookup other := by
  induction entries with
  | nil => rw [putNamed, List.lookup_cons, beq_false_of_ne different]
  | cons entry rest ih =>
      rw [putNamed]
      split
      next same => rw [List.lookup_cons, List.lookup_cons, same, beq_false_of_ne different]
      next => rw [List.lookup_cons, List.lookup_cons, ih]

namespace EntityConverter

variable {c : EntityConverter} {e : PersistentEntity} {row : Row}

/-- Whether each column that a property takes is read as the type of the property. -/
def CanRead (c : EntityConverter) (e : PersistentEntity) (row : Row) : Prop :=
  ∀ slot p position, e.properties[slot]? = some p → e.taken? row.columns slot = some position →
    ∃ value, c.conversions.readValue (row.getOrNull position) p.sqlType = .ok value

/-- What is known after some columns of a row: the properties with a column were seen, what they
take could be read, and a name has the value of the last column that a property of the name
takes. -/
structure Reads (c : EntityConverter) (e : PersistentEntity) (row : Row) (columns : Columns)
    (state : ReadState) : Prop where
  seen : ∀ slot, state.seen.contains slot = (e.taken? columns slot).isSome
  readable : ∀ slot p position, e.properties[slot]? = some p →
    e.taken? columns slot = some position →
    ∃ value, c.conversions.readValue (row.getOrNull position) p.sqlType = .ok value
  given : ∀ slot p position, e.properties[slot]? = some p →
    e.taken? columns slot = some position → e.IsLastNamed columns p.name position →
    ∃ value, c.conversions.readValue (row.getOrNull position) p.sqlType = .ok value ∧
      state.values.entries.lookup p.name = some value
  absent : ∀ name, (∀ slot p, e.properties[slot]? = some p → p.name = name →
    e.taken? columns slot = none) → state.values.entries.lookup name = none

namespace Reads

variable {columns : Columns} {column : Column} {state : ReadState}

theorem nil : c.Reads e row [] ⟨[], .empty⟩ :=
  ⟨fun _ => rfl, fun _ _ _ _ taken => (nomatch taken), fun _ _ _ _ taken => (nomatch taken),
    fun _ _ => rfl⟩

theorem new (h : c.Reads e row columns state) {slot : Nat}
    (unseen : state.seen.contains slot = false) : e.taken? columns slot = none := by
  rw [h.seen, Option.isSome_eq_false_iff, Option.isNone_iff_eq_none] at unseen
  exact unseen

/-- A column that no property takes changes nothing. -/
theorem skip (h : c.Reads e row columns state)
    (same : ∀ slot, e.taken? (columns ++ [column]) slot = e.taken? columns slot) :
    c.Reads e row (columns ++ [column]) state := by
  constructor
  case seen =>
    intro slot
    rw [same]
    exact h.seen slot
  case readable =>
    intro slot p position hp taken
    rw [same] at taken
    exact h.readable slot p position hp taken
  case given =>
    intro slot p position hp taken last
    rw [same] at taken
    exact h.given slot p position hp taken last.of_append
  case absent =>
    intro name none
    exact h.absent name fun slot p hp hname =>
      PersistentEntity.taken?_of_append (none slot p hp hname)

/-- A column that a property takes gives the property its value. -/
theorem take (h : c.Reads e row columns state) {slot : Nat} {p : Property}
    (goes : e.slotOf? column.label = some slot) (unseen : state.seen.contains slot = false)
    (hp : e.properties[slot]? = some p) {value : Value}
    (read : c.conversions.readValue (row.getOrNull columns.length) p.sqlType = .ok value) :
    c.Reads e row (columns ++ [column])
      ⟨slot :: state.seen, state.values.insert p.name value⟩ := by
  have here : e.taken? (columns ++ [column]) slot = some columns.length :=
    PersistentEntity.taken?_concat_self goes (h.new unseen)
  have others {other : Nat} (different : other ≠ slot) :
      e.taken? (columns ++ [column]) other = e.taken? columns other :=
    PersistentEntity.taken?_concat_of_ne fun same =>
      different (Option.some.inj (same.symm.trans goes))
  constructor
  case seen =>
    intro other
    by_cases same : other = slot
    · rw [same, here, List.contains_cons, beq_self_eq_true, Bool.true_or]
      rfl
    · rw [List.contains_cons, beq_false_of_ne same, Bool.false_or, others same]
      exact h.seen other
  case readable =>
    intro other q position hq taken
    by_cases same : other = slot
    · subst same
      cases hp.symm.trans hq
      cases here.symm.trans taken
      exact ⟨value, read⟩
    · rw [others same] at taken
      exact h.readable other q position hq taken
  case given =>
    intro other q position hq taken last
    by_cases same : other = slot
    · subst same
      cases hp.symm.trans hq
      cases here.symm.trans taken
      exact ⟨value, read, lookup_putNamed p.name value _⟩
    · rw [others same] at taken
      -- a property of the same name would take this column later than its own
      have different : q.name ≠ p.name := fun named =>
        absurd (last slot p columns.length hp named.symm here)
          (Nat.not_le_of_lt (PersistentEntity.taken?_lt taken))
      rw [PropertyValues.insert, lookup_putNamed_of_ne different]
      exact h.given other q position hq taken last.of_append
  case absent =>
    intro name none
    have different : name ≠ p.name := by
      rintro rfl
      rw [none slot p hp rfl] at here
      cases here
    rw [PropertyValues.insert, lookup_putNamed_of_ne different]
    exact h.absent name fun slot p hp hname =>
      PersistentEntity.taken?_of_append (none slot p hp hname)

end Reads

/-- Columns are read one by one, and what is kept for those before holds for all.  Reading stops
only at a column that a property takes and that cannot be read. -/
theorem readColumns_cases {columns rest : Columns} {state : ReadState}
    (whole : row.columns = columns ++ rest) (h : c.Reads e row columns state) :
    (∃ final, c.readColumns e row columns.length rest state = .ok final ∧
        c.Reads e row row.columns final) ∨
      (∃ refused, c.readColumns e row columns.length rest state = .error refused) ∧
        ¬ c.CanRead e row := by
  -- over the columns that are still to be read, those read before being `columns`
  induction rest generalizing columns state with
  | nil =>
      rw [List.append_nil] at whole
      exact .inl ⟨state, rfl, whole ▸ h⟩
  | cons column rest ih =>
      have grown : row.columns = (columns ++ [column]) ++ rest := by
        rw [whole, List.append_assoc, List.singleton_append]
      have later {state : ReadState} (h : c.Reads e row (columns ++ [column]) state) :
          (∃ final, c.readColumns e row (columns.length + 1) rest state = .ok final ∧
              c.Reads e row row.columns final) ∨
            (∃ refused, c.readColumns e row (columns.length + 1) rest state = .error refused) ∧
              ¬ c.CanRead e row := by
        have final := ih grown h
        rw [List.length_append, List.length_singleton] at final
        exact final
      rw [readColumns]
      cases goes : e.slotOf? column.label with
      | none =>
          refine later (h.skip fun slot => PersistentEntity.taken?_concat_of_ne ?_)
          rw [goes]
          exact (Option.some_ne_none slot).symm
      | some slot =>
          obtain ⟨p, hp, -⟩ := PersistentEntity.exists_of_slotOf? goes
          cases unseen : state.seen.contains slot with
          | true =>
              simp only [unseen, if_true]
              refine later (h.skip fun other => ?_)
              rw [h.seen, Option.isSome_iff_exists] at unseen
              obtain ⟨position, taken⟩ := unseen
              by_cases same : slot = other
              · rw [← same, taken]
                exact PersistentEntity.taken?_append taken _
              · exact PersistentEntity.taken?_concat_of_ne fun again =>
                  same (Option.some.inj (goes.symm.trans again))
          | false =>
              have taken : e.taken? row.columns slot = some columns.length := by
                rw [grown]
                exact PersistentEntity.taken?_append
                  (PersistentEntity.taken?_concat_self goes (h.new unseen)) rest
              cases read : c.conversions.readValue (row.getOrNull columns.length) p.sqlType with
              | ok value =>
                  simp only [unseen, hp, read]
                  exact later (h.take goes unseen hp read)
              | error refused =>
                  simp only [unseen, hp, read]
                  refine .inr ⟨⟨_, rfl⟩, fun can => ?_⟩
                  obtain ⟨value, readable⟩ := can slot p columns.length hp taken
                  rw [read] at readable
                  cases readable

/-- Columns that can be read are read, and what is kept for those before holds for all. -/
theorem exists_readColumns (can : c.CanRead e row) {columns rest : Columns} {state : ReadState}
    (whole : row.columns = columns ++ rest) (h : c.Reads e row columns state) :
    ∃ final, c.readColumns e row columns.length rest state = .ok final ∧
      c.Reads e row row.columns final :=
  (readColumns_cases whole h).resolve_right fun stopped => stopped.2 can

/-- Reading succeeds when each property takes a column or can be NULL. -/
theorem readProperties_of_served {final : ReadState}
    (read : c.readColumns e row 0 row.columns ⟨[], .empty⟩ = .ok final)
    (reads : c.Reads e row row.columns final) (served : e.Served row.columns) :
    c.readProperties e row = .ok final.values := by
  have none : missing? final.seen 0 e.properties = none := by
    refine missing?_eq_none fun slot q hq => ?_
    rw [reads.seen]
    exact served slot q hq
  exact Outcome.bind_eq_ok.mpr ⟨final, read, by rw [none]⟩

/-- A row that is read has what its columns were read as. -/
theorem reads_of_readProperties {values : PropertyValues}
    (h : c.readProperties e row = .ok values) :
    ∃ final, c.Reads e row row.columns final ∧ final.values = values ∧ e.Served row.columns := by
  obtain ⟨final, read, h⟩ := Outcome.bind_eq_ok.mp h
  obtain ⟨again, reread, reads⟩ | ⟨⟨refused, stopped⟩, -⟩ :=
    readColumns_cases (List.nil_append row.columns).symm .nil
  · cases read.symm.trans reread
    split at h
    next => cases h
    next none =>
      refine ⟨final, reads, Except.ok.inj h, fun slot p hp => ?_⟩
      have served := forall_of_missing? none slot p hp
      rwa [Nat.zero_add, reads.seen] at served
  · cases read.symm.trans stopped

/-- A row is read exactly when the columns that its properties take can be read and no property
is missing. -/
theorem exists_readProperties_iff :
    (∃ values, c.readProperties e row = .ok values) ↔ c.CanRead e row ∧ e.Served row.columns := by
  constructor
  · rintro ⟨values, h⟩
    obtain ⟨final, reads, -, served⟩ := reads_of_readProperties h
    exact ⟨reads.readable, served⟩
  · rintro ⟨can, served⟩
    obtain ⟨final, read, reads⟩ := exists_readColumns can (List.nil_append _).symm .nil
    exact ⟨final.values, readProperties_of_served read reads served⟩

/-- The first property that takes no column and cannot be NULL is reported as missing. -/
theorem readProperties_of_missing {final : ReadState}
    (read : c.readColumns e row 0 row.columns ⟨[], .empty⟩ = .ok final)
    (reads : c.Reads e row row.columns final) {before after : List Property} {p : Property}
    (whole : e.properties = before ++ p :: after)
    (served : ∀ slot q, before[slot]? = some q →
      q.nullable = true ∨ (e.taken? row.columns slot).isSome = true)
    (none : e.taken? row.columns before.length = none) (needed : p.nullable = false) :
    c.readProperties e row
      = .error (.mapping (.missingColumn p.column.name p.name) (some e.typeName)) := by
  have missing : missing? final.seen 0 e.properties = some p := by
    rw [whole, missing?_append, Nat.zero_add, missing?, reads.seen, none, needed]
    · rfl
    · intro slot q hq
      rw [Nat.zero_add, reads.seen]
      exact served slot q hq
  rw [readProperties, read]
  simp only [bind, Except.bind, missing]

/-- A property whose own column is in a row, when the columns can be read and no other
property is missing.  It is given the value of the first column that matches, under its name
unless a property of the same name takes a later column, if no property before it has a
column that is confusable with its own.  Otherwise it takes no column of any row: it is
reported as missing, or left without a value when it can be NULL. -/
theorem readProperties_labelled (c : EntityConverter) {e : PersistentEntity}
    (valid : e.validate = .ok e) {before after : List Property} {p : Property}
    (whole : e.properties = before ++ p :: after) {row : Row}
    (labelled : p.column.name ∈ row.columns.labels) (can : c.CanRead e row)
    (others : ∀ slot q, slot ≠ before.length → e.properties[slot]? = some q →
      q.nullable = true ∨ (e.taken? row.columns slot).isSome = true) :
    ((∀ q ∈ before, ¬ q.column.Confusable p.column) →
        ∃ values position value, c.readProperties e row = .ok values ∧
          row.columns.findIdx? (fun column => p.column.matchesLabel column.label)
            = some position ∧
          c.conversions.readValue (row.getOrNull position) p.sqlType = .ok value ∧
          (e.IsLastNamed row.columns p.name position →
            values.entries.lookup p.name = some value)) ∧
      ((∃ q ∈ before, q.column.Confusable p.column) →
        (p.nullable = false → c.readProperties e row
            = .error (.mapping (.missingColumn p.column.name p.name) (some e.typeName))) ∧
          (p.nullable = true → ∃ values, c.readProperties e row = .ok values ∧
            ((∀ slot q, e.properties[slot]? = some q → q.name = p.name →
              e.taken? row.columns slot = none) → values.entries.lookup p.name = none))) := by
  have here : e.properties[before.length]? = some p := by
    rw [whole, List.getElem?_append_right (Nat.le_refl _), Nat.sub_self]
    rfl
  obtain ⟨final, read, reads⟩ := exists_readColumns can (List.nil_append _).symm .nil
  have succeeds (own : p.nullable = true ∨ (e.taken? row.columns before.length).isSome = true) :
      c.readProperties e row = .ok final.values := by
    refine readProperties_of_served read reads fun slot q hq => ?_
    by_cases same : slot = before.length
    · rw [same, here, Option.some.injEq] at hq
      rw [same, ← hq]
      exact own
    · exact others slot q same hq
  constructor
  · intro free
    have apart : ∀ q ∈ before, q.column.matchesLabel p.column.name = false := by
      intro q hq
      rw [← Bool.not_eq_true, ← PersistentEntity.confusable_iff_of_validate valid whole hq]
      exact free q hq
    obtain ⟨column, hcolumn, label⟩ := List.mem_map.mp labelled
    have first : (row.columns.findIdx? fun column => p.column.matchesLabel column.label).isSome
        = true := by
      rw [List.findIdx?_isSome, List.any_eq_true]
      exact ⟨column, hcolumn, label ▸ p.column.matchesLabel_self⟩
    obtain ⟨position, first⟩ := Option.isSome_iff_exists.mp first
    have taken : e.taken? row.columns before.length = some position := by
      rw [PersistentEntity.taken?_of_free whole apart, first]
    obtain ⟨value, hvalue⟩ := can before.length p position here taken
    refine ⟨final.values, position, value, succeeds (.inr ?_), first, hvalue, fun last => ?_⟩
    · rw [taken]
      rfl
    · obtain ⟨again, same, given⟩ := reads.given before.length p position here taken last
      cases hvalue.symm.trans same
      exact given
  · rintro ⟨q, hq, confusable⟩
    have none : e.taken? row.columns before.length = none :=
      PersistentEntity.taken?_of_shadowed whole hq confusable.2 row.columns
    refine ⟨fun needed => ?_, fun nullable => ⟨final.values, succeeds (.inl nullable), ?_⟩⟩
    · refine readProperties_of_missing read reads whole (fun slot q hq => ?_) none needed
      obtain ⟨bound, -⟩ := List.getElem?_eq_some_iff.mp hq
      refine others slot q (Nat.ne_of_lt bound) ?_
      rw [whole, List.getElem?_append_left bound]
      exact hq
    · exact reads.absent p.name

/-- A quoted column behind another one, twice in the row, with an absent nullable column. -/
theorem readProperties_labelled_quoted :
    let c : EntityConverter := ⟨Dialect.postgres.conversions [], .postgres⟩
    let id : Property := ⟨"id", .unquoted "id", .bigInt, true, true⟩
    let name : Property := ⟨"name", .ofQuoted "Name", .text, false, false⟩
    let age : Property := ⟨"age", .unquoted "age", .integer, false, true⟩
    let e : PersistentEntity := ⟨"Person", .unquoted "person", [id, name, age]⟩
    let row : Row := ⟨.ofLabels ["NAME", "ID", "Name"], [.text "a", .bigInt 1]⟩
    e.validate = .ok e ∧ name.column.name ∈ row.columns.labels ∧ c.CanRead e row ∧
      (∀ slot q, slot ≠ 1 → e.properties[slot]? = some q →
        q.nullable = true ∨ (e.taken? row.columns slot).isSome = true) ∧
      (∀ q ∈ [id], ¬ q.column.Confusable name.column) ∧
      ∃ values position value, c.readProperties e row = .ok values ∧
        row.columns.findIdx? (fun column => name.column.matchesLabel column.label)
          = some position ∧
        c.conversions.readValue (row.getOrNull position) name.sqlType = .ok value ∧
        (e.IsLastNamed row.columns name.name position →
          values.entries.lookup name.name = some value) := by
  intro c id name age e row
  have valid : e.validate = .ok e := by decide
  have labelled : name.column.name ∈ row.columns.labels := by decide
  have whole : e.properties = [id] ++ name :: [age] := rfl
  have idTaken : e.taken? row.columns 0 = some 1 := by decide
  have nameTaken : e.taken? row.columns 1 = some 0 := by decide
  have ageTaken : e.taken? row.columns 2 = none := by decide
  have can : c.CanRead e row := by
    intro slot p position hp taken
    match slot with
    | 0 => cases hp; cases idTaken.symm.trans taken; exact ⟨_, rfl⟩
    | 1 => cases hp; cases nameTaken.symm.trans taken; exact ⟨_, rfl⟩
    | 2 => cases ageTaken.symm.trans taken
    | _ + 3 => cases hp
  have others : ∀ slot q, slot ≠ 1 → e.properties[slot]? = some q →
      q.nullable = true ∨ (e.taken? row.columns slot).isSome = true := by
    intro slot q different hq
    match slot with
    | 0 => exact .inr (idTaken ▸ rfl)
    | 1 => exact absurd rfl different
    | 2 => cases hq; exact .inl rfl
    | _ + 3 => cases hq
  have free : ∀ q ∈ [id], ¬ q.column.Confusable name.column := by decide
  exact ⟨valid, labelled, can, others, free,
    (readProperties_labelled c valid whole labelled can others).1 free⟩

/-- Of two quoted columns of which the letter case differs, the second is reported as missing
although the row has both. -/
theorem readProperties_labelled_case :
    let c : EntityConverter := ⟨Dialect.postgres.conversions [], .postgres⟩
    let e : PersistentEntity := ⟨"Pair", .unquoted "pair",
      [⟨"first", .ofQuoted "Name", .integer, false, false⟩,
        ⟨"second", .ofQuoted "NAME", .integer, false, false⟩]⟩
    let row : Row := ⟨.ofLabels ["Name", "NAME"], [.int 7, .int 7]⟩
    e.validate = .ok e ∧ "NAME" ∈ row.columns.labels ∧ c.CanRead e row ∧
      (e.taken? row.columns 0).isSome = true ∧
      c.readProperties e row
        = .error (.mapping (.missingColumn "NAME" "second") (some "Pair")) := by
  intro c e row
  have firstTaken : e.taken? row.columns 0 = some 0 := by decide
  have secondTaken : e.taken? row.columns 1 = none := by decide
  have can : c.CanRead e row := by
    intro slot p position hp taken
    match slot with
    | 0 => cases hp; cases firstTaken.symm.trans taken; exact ⟨_, rfl⟩
    | 1 => cases secondTaken.symm.trans taken
    | _ + 2 => cases hp
  exact ⟨by decide, by decide, can, firstTaken ▸ rfl, rfl⟩

end EntityConverter

end DataMapper
