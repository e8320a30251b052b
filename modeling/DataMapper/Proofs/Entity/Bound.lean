import DataMapper.Proofs.Entity.Stored

/-!
# Values that are bound

A value that is bound on its own goes another way than one that an outbound row holds, and
both ways bring arrays to the element type of the store.

* Integers that are narrower than the element type are widened to it, wherever they stand, but
  for those of 8 and of 16 bits in a store of 64 bits, which are passed over
  (`Value.PassedOver`).  So a mixed array has the element type afterwards exactly when it has no
  leaf that is passed over (`EntityConverter.scalarType?_of_mixed`).
* The two ways refuse the same arrays and give the same value for every array that has a leaf or
  a NULL in it.  An array without either is bound as it is, and a row holds the NULL in its place
  (`EntityConverter.value_eq_value_iff`).
* What was bound is bound again as it is, with its type (`EntityConverter.bindValue_again`).
-/

namespace DataMapper

/-! ## Integers and wider ones -/

namespace Value

variable {value leaf : Value} {store : SqlType}

/-- Whether widening passes over a value that it ought to widen: an integer of 8 or of 16 bits
in a store of 64 bits. -/
def PassedOver (value : Value) (store : SqlType) : Prop :=
  store = .bigInt ∧ (value.scalarType? = some .tinyInt ∨ value.scalarType? = some .smallInt)

instance (value : Value) (store : SqlType) : Decidable (value.PassedOver store) :=
  inferInstanceAs (Decidable (_ ∧ _))

/-- An integer that fits into a type is widened to it unless it is passed over. -/
theorem scalarType?_coerce_iff (fits : leaf.FitsInto store) :
    (leaf.coerce store).scalarType? = some store ↔ ¬ leaf.PassedOver store := by
  obtain ⟨narrow, hnarrow, wide, hwide, le⟩ := fits
  -- over the four types of integers on both sides, where `le` leaves the pairs that fit
  cases leaf <;> cases hnarrow <;> cases store <;> cases hwide <;>
    simp [PassedOver, coerce, scalarType?] at le ⊢

/-- Integers that fit into a type are all widened to it when none is passed over. -/
theorem forall_scalarType?_coerce_iff {leaves : List Value}
    (fits : ∀ leaf ∈ leaves, leaf.FitsInto store) :
    (∀ leaf ∈ leaves.map (coerce store), leaf.scalarType? = some store) ↔
      ∀ leaf ∈ leaves, ¬ leaf.PassedOver store := by
  rw [List.forall_mem_map]
  exact forall₂_congr fun leaf hleaf => scalarType?_coerce_iff (fits leaf hleaf)

end Value

/-- The leaves of what a settable holds. -/
def Settable.leaves (s : Settable) : List Value := (s.value.getD .null).leaves

@[simp] theorem Settable.leaves_ofValue (value : Value) (type : SqlType) :
    (ofValue value type).leaves = value.leaves := by
  rw [leaves, getD_value_ofValue]

namespace EntityConverter

variable {c : EntityConverter} {d : Dialect} {p : Property} {slot store : SqlType}
  {items : List Value}

/-! ## Both ways of an array -/

/-- What is bound for a value depends on what was written for it. -/
theorem bindValue_of_writes {s : Settable} {raw written : Value} (present : s.value = some raw)
    (writes : c.conversions.writeValue raw = .ok written) :
    c.bindValue s =
      if written.isArray && s.sqlType.isArray then
        (c.dialect.storeElement (written.elementType?.getD s.sqlType.element)).map fun store =>
          .ofValue (written.coerce store) (store.wrap (max written.depth s.sqlType.dimensions))
      else .ok (.ofValue written (writtenType (c.conversions.hasWriter raw) written s.sqlType)) := by
  rw [bindValue, present, ← noArrays_or_map]
  simp only [writes, bind, Except.bind]
  cases c.dialect.storeElement (written.elementType?.getD s.sqlType.element) <;> rfl

/-- An array that is written as it is is bound with its leaves widened. -/
theorem bindValue_array (array : slot.isArray = true) (keeps : c.conversions.Keeps (.array items)) :
    c.bindValue (.ofValue (.array items) slot) =
      (c.dialect.storeElement ((Value.array items).elementType?.getD slot.element)).map
        fun store => .ofValue ((Value.array items).coerce store)
          (store.wrap (max (Value.array items).depth slot.dimensions)) := by
  have present : (Settable.ofValue (.array items) slot).value = some (.array items) := rfl
  rw [bindValue_of_writes present keeps, Settable.sqlType_ofValue, array]
  rfl

/-- A row holds an array with its leaves widened, or the NULL when it has no leaf. -/
theorem arrayValue_array (c : EntityConverter) (p : Property) (items : List Value)
    (array : slot.isArray = true) :
    c.arrayValue (.ofValue (.array items) slot) p =
      (c.dialect.storeElement ((Value.array items).elementType?.getD p.sqlType.element)).map
        fun store => if (Value.array items).isLeafless then
            .empty (store.wrap (max (max (Value.array items).depth p.sqlType.dimensions) 1))
          else .ofValue ((Value.array items).coerce store) store :=
  arrayValue_ofValue (SqlType.isBinary_of_isArray array) rfl

/-- What a row holds for a value that may be leafless has the leaves of the value, widened. -/
theorem leaves_stored (value : Value) (absent : SqlType) :
    (if value.isLeafless then .empty absent
      else Settable.ofValue (value.coerce store) store).leaves
      = value.leaves.map (Value.coerce store) := by
  split
  next leafless =>
    rw [Value.leaves_of_isLeafless leafless]
    rfl
  next => rw [Settable.leaves_ofValue, Value.leaves_coerce]

/-- A dialect without converters, an array whose leaves have no type in common, and a slot and a
property of an array type.  When each leaf is an integer that fits into the element type of the
store, the array is bound, and a row holds it, with all leaves of that type exactly when no leaf
is passed over. -/
theorem widened_of_mixed (plain : d.converters = []) (collection : p.isCollection = true)
    (kept : d.storeElement p.sqlType.element = .ok store)
    (mixed : (Value.array items).elementType? = none)
    (fits : ∀ leaf ∈ (Value.array items).leaves, leaf.FitsInto store) :
    ∃ bound stored, (ofDialect d).bindValue (.ofValue (.array items) p.sqlType) = .ok bound ∧
      (ofDialect d).arrayValue (.ofValue (.array items) p.sqlType) p = .ok stored ∧
      ((∀ leaf ∈ bound.leaves, leaf.scalarType? = some store) ↔
        ∀ leaf ∈ (Value.array items).leaves, ¬ leaf.PassedOver store) ∧
      ((∀ leaf ∈ stored.leaves, leaf.scalarType? = some store) ↔
        ∀ leaf ∈ (Value.array items).leaves, ¬ leaf.PassedOver store) := by
  have keeps : (ofDialect d).conversions.Keeps (.array items) := by
    refine Conversions.keeps_of_leaves plain fun typeName variant hleaf => ?_
    obtain ⟨narrow, hnarrow, -⟩ := fits _ hleaf
    cases hnarrow
  have element : (ofDialect d).dialect.storeElement
      ((Value.array items).elementType?.getD p.sqlType.element) = .ok store := by
    rw [mixed]
    exact kept
  have bound := bindValue_array collection keeps
  have stored := arrayValue_array (ofDialect d) p items collection
  rw [element] at bound stored
  refine ⟨_, _, bound, stored, ?_, ?_⟩
  · rw [Settable.leaves_ofValue, Value.leaves_coerce]
    exact Value.forall_scalarType?_coerce_iff fits
  · rw [leaves_stored]
    exact Value.forall_scalarType?_coerce_iff fits

/-- Integers of 8 and of 32 bits, at different depths and beside a NULL, in a dialect that widens
integers of 8 bits and in a slot for integers of 32 bits. -/
theorem widened_of_mixed_grid :
    let p : Property := ⟨"cells", .unquoted "cells", .array (.array .integer), false, false⟩
    let items : List Value := [.array [.tinyInt (-1), .null], .array [], .int 70000]
    Dialect.postgres.converters = [] ∧ p.isCollection = true ∧
      Dialect.postgres.storeElement p.sqlType.element = .ok .integer ∧
      (Value.array items).elementType? = none ∧
      (∀ leaf ∈ (Value.array items).leaves, leaf.FitsInto .integer) ∧
      ∃ bound stored,
        (ofDialect .postgres).bindValue (.ofValue (.array items) p.sqlType) = .ok bound ∧
        (ofDialect .postgres).arrayValue (.ofValue (.array items) p.sqlType) p = .ok stored ∧
        (∀ leaf ∈ bound.leaves, leaf.scalarType? = some .integer) ∧
        ∀ leaf ∈ stored.leaves, leaf.scalarType? = some .integer := by
  intro p items
  have mixed : (Value.array items).elementType? = none := by decide
  have fits : ∀ leaf ∈ (Value.array items).leaves, leaf.FitsInto .integer := by decide
  have reached : ∀ leaf ∈ (Value.array items).leaves, ¬ leaf.PassedOver .integer := by decide
  obtain ⟨bound, stored, hbound, hstored, all, also⟩ :=
    widened_of_mixed (d := .postgres) (p := p) rfl rfl rfl mixed fits
  exact ⟨rfl, rfl, rfl, mixed, fits, bound, stored, hbound, hstored, all.mpr reached,
    also.mpr reached⟩

/-- Integers of 8 and of 32 bits in a slot for integers of 64 bits: the one of 8 bits keeps its
type although it fits. -/
theorem widened_of_mixed_bigInt :
    let p : Property := ⟨"codes", .unquoted "codes", .array .bigInt, false, false⟩
    let items : List Value := [.tinyInt 1, .int 2]
    Dialect.postgres.storeElement p.sqlType.element = .ok .bigInt ∧
      (Value.array items).elementType? = none ∧
      (∀ leaf ∈ (Value.array items).leaves, leaf.FitsInto .bigInt) ∧
      ∃ bound stored,
        (ofDialect .postgres).bindValue (.ofValue (.array items) p.sqlType) = .ok bound ∧
        (ofDialect .postgres).arrayValue (.ofValue (.array items) p.sqlType) p = .ok stored ∧
        bound.leaves = [.tinyInt 1, .bigInt 2] ∧ stored.leaves = [.tinyInt 1, .bigInt 2] ∧
        ¬ ∀ leaf ∈ bound.leaves, leaf.scalarType? = some .bigInt := by
  intro p items
  exact ⟨rfl, by decide, by decide, _, _, rfl, rfl, rfl, rfl, by decide⟩

/-- In a dialect without converters, a slot and a property of one array type refuse the same
arrays without variants, with one error.  An array that they take is bound and a row holds it.
The values are the same exactly when it has a leaf or a NULL.  If it has neither it is bound as
it is, and the row holds the NULL. -/
theorem value_eq_value_iff (plain : d.converters = []) (collection : p.isCollection = true)
    (named : ∀ typeName variant, .enumeration typeName variant ∉ (Value.array items).leaves) :
    (∃ refusal, (ofDialect d).bindValue (.ofValue (.array items) p.sqlType) = .error refusal ∧
        (ofDialect d).arrayValue (.ofValue (.array items) p.sqlType) p = .error refusal) ∨
      ∃ bound stored, (ofDialect d).bindValue (.ofValue (.array items) p.sqlType) = .ok bound ∧
        (ofDialect d).arrayValue (.ofValue (.array items) p.sqlType) p = .ok stored ∧
        (bound.value = stored.value ↔ (Value.array items).isLeafless = false) ∧
        ((Value.array items).isLeafless = true →
          bound.value = some (.array items) ∧ stored.value = none) := by
  have keeps : (ofDialect d).conversions.Keeps (.array items) :=
    Conversions.keeps_of_leaves plain named
  have bound := bindValue_array collection keeps
  have stored := arrayValue_array (ofDialect d) p items collection
  cases element : (ofDialect d).dialect.storeElement
      ((Value.array items).elementType?.getD p.sqlType.element) with
  | error refusal =>
      rw [element] at bound stored
      exact .inl ⟨refusal, bound, stored⟩
  | ok store =>
      rw [element, Except.map] at bound stored
      refine .inr ⟨_, _, bound, stored, ?_⟩
      cases leafless : (Value.array items).isLeafless with
      | false => exact ⟨iff_of_true rfl rfl, nofun⟩
      | true =>
          rw [Value.coerce_of_isLeafless leafless]
          exact ⟨iff_of_false nofun nofun, fun _ => ⟨rfl, rfl⟩⟩

/-- An array of arrays without a leaf, one of which holds a NULL. -/
theorem value_eq_value_iff_null :
    let p : Property := ⟨"cells", .unquoted "cells", .array (.array .integer), false, false⟩
    let items : List Value := [.array [], .array [.null]]
    Dialect.h2.converters = [] ∧ p.isCollection = true ∧
      (∀ typeName variant, .enumeration typeName variant ∉ (Value.array items).leaves) ∧
      ∃ bound stored,
        (ofDialect .h2).bindValue (.ofValue (.array items) p.sqlType) = .ok bound ∧
        (ofDialect .h2).arrayValue (.ofValue (.array items) p.sqlType) p = .ok stored ∧
        bound.value = stored.value := by
  intro p items
  have named : ∀ typeName variant, .enumeration typeName variant ∉ (Value.array items).leaves :=
    fun _ _ leaf => nomatch leaf
  refine ⟨rfl, rfl, named, ?_⟩
  rcases value_eq_value_iff (d := .h2) (p := p) rfl rfl named with
    ⟨refusal, refused, -⟩ | ⟨bound, stored, hbound, hstored, same, -⟩
  · cases refused
  · exact ⟨bound, stored, hbound, hstored, same.mpr (by decide)⟩

/-- An empty array in a slot for arrays of texts and of such a property. -/
theorem value_eq_value_iff_empty :
    let p : Property := ⟨"tags", .unquoted "tags", .array .text, false, true⟩
    ∃ bound stored,
      (ofDialect .postgres).bindValue (.ofValue (.array []) p.sqlType) = .ok bound ∧
      (ofDialect .postgres).arrayValue (.ofValue (.array []) p.sqlType) p = .ok stored ∧
      bound.value = some (.array []) ∧ stored.value = none ∧
      bound.sqlType = .array .text ∧ stored.sqlType = .array .text :=
  ⟨_, _, rfl, rfl, rfl, rfl, rfl, rfl⟩

/-! ## Binding again -/

/-- An array that was bound to an array slot is bound again as it is. -/
theorem bindValue_of_widened (settles : c.conversions.Settles) {written : Value}
    (keeps : c.conversions.Keeps written) (many : written.isArray = true)
    (array : slot.isArray = true)
    (kept : c.dialect.storeElement (written.elementType?.getD slot.element) = .ok store) :
    let bound : Settable :=
      .ofValue (written.coerce store) (store.wrap (max written.depth slot.dimensions))
    c.bindValue bound = .ok bound := by
  intro bound
  have still : (written.coerce store).isArray = true := by rw [Value.isArray_coerce, many]
  have present : bound.value = some (written.coerce store) :=
    Value.present?_eq_some fun null => by rw [null] at still; cases still
  have single : store.dimensions = 0 :=
    ArrayColumns.dimensions_of_storeElement kept (Value.dimensions_getD_elementType? _ _)
  have element : bound.sqlType.element = store := by
    have whole := store.wrap_element
    rw [single, SqlType.wrap] at whole
    rw [Settable.sqlType_ofValue, SqlType.element_wrap, whole]
  have dimensions : bound.sqlType.dimensions = max written.depth slot.dimensions := by
    rw [Settable.sqlType_ofValue, SqlType.dimensions_wrap, single, Nat.add_zero]
  have collection : bound.sqlType.isArray = true := by
    rw [SqlType.isArray_eq, decide_eq_true_iff] at array ⊢
    rw [dimensions]
    exact Nat.lt_of_lt_of_le array (Nat.le_max_right ..)
  have again : c.dialect.storeElement
      ((written.coerce store).elementType?.getD bound.sqlType.element) = .ok store := by
    rw [element, Value.getD_elementType?_coerce written _ kept]
    exact ArrayColumns.storeElement_again kept
  rw [bindValue_of_writes present (settles.keeps_coerce store written keeps), still, collection,
    Bool.and_self, if_pos rfl, again, dimensions, Except.map, Value.coerce_coerce,
    Value.depth_coerce, ← Nat.max_assoc, Nat.max_self]

/-- The type of what was written makes it no array in an array slot. -/
theorem isArray_writtenType (accepted : Bool) (written : Value) (declared : SqlType) :
    (written.isArray && (writtenType accepted written declared).isArray)
      = (written.isArray && declared.isArray) := by
  cases written with
  | array items => rw [writtenType_array]
  | _ => rfl

/-- A value that no converter accepts has the type of its slot. -/
theorem writtenType_of_not (written : Value) (declared : SqlType) :
    writtenType false written declared = declared := by
  rw [writtenType]
  cases written.sqlType? <;> rfl

/-- What a built-in dialect has bound, without converters of a user, it binds again as it is. -/
theorem bindValue_again (builtIn : d ∈ Dialect.builtIn) {s bound : Settable}
    (h : (ofDialect d).bindValue s = .ok bound) : (ofDialect d).bindValue bound = .ok bound := by
  have settles := Dialect.settles builtIn
  cases present : s.value with
  | none =>
      rw [bindValue, present] at h
      cases h
      rw [bindValue, present]
  | some raw =>
      obtain ⟨written, writes⟩ := Dialect.writesAll builtIn raw
      have keeps : (ofDialect d).conversions.Keeps written := settles.written raw written writes
      rw [bindValue_of_writes present writes] at h
      split at h
      next both =>
        obtain ⟨many, array⟩ := Bool.and_eq_true_iff.mp both
        obtain ⟨store, kept, rfl⟩ := Outcome.map_eq_ok.mp h
        exact bindValue_of_widened settles keeps many array kept
      next other =>
        cases h
        by_cases null : written = .null
        · rw [null]
          rfl
        · have unaccepted : (ofDialect d).conversions.hasWriter written = false :=
            Dialect.hasWriter_of_writeValue builtIn writes
          rw [bindValue_of_writes (Value.present?_eq_some null) keeps, Settable.sqlType_ofValue,
            isArray_writtenType, if_neg other, unaccepted, writtenType_of_not]

/-- A ragged array with integers of 8 and of 16 bits, a NULL and a variant, in a slot for integers
of 8 bits. -/
theorem bindValue_again_ragged :
    let ragged : Value :=
      .array [.array [.tinyInt 1, .null], .smallInt 2, .enumeration "Color" "Red"]
    let widened : Value := .array [.array [.smallInt 1, .null], .smallInt 2, .text "Red"]
    let bound : Settable := .ofValue widened (.array (.array .smallInt))
    Dialect.postgres ∈ Dialect.builtIn ∧
      (ofDialect .postgres).bindValue (.ofValue ragged (.array .tinyInt)) = .ok bound ∧
      (ofDialect .postgres).bindValue bound = .ok bound := by
  intro ragged widened bound
  have known : Dialect.postgres ∈ Dialect.builtIn := List.mem_cons_self ..
  have once : (ofDialect .postgres).bindValue (.ofValue ragged (.array .tinyInt)) = .ok bound := rfl
  exact ⟨known, once, bindValue_again known once⟩

end EntityConverter

end DataMapper
