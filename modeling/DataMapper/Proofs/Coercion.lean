import DataMapper.Entity.Coercion
import DataMapper.Proofs.Leaves
import DataMapper.Proofs.Outcome

/-!
# Widened values

Widening changes the leaves of a value one by one (`Value.leaves_coerce`).  Arrays, the NULLs
in them and their depth stay, and so does every leaf that has the type of the store already.
A leaf that does change has the type of the store afterwards (`Value.coerce_cases`), so
widening twice is widening once (`Value.coerce_coerce`).

The type of a value is read off its leaves: it has one when there is a leaf and all of them
have that type (`Value.elementType?_eq_some_iff`).  Widening can make leaves alike that were
not, but only by bringing all of them to the type of the store.  So a value that was widened to
the type that its leaves call for has that type, or no type at all
(`Value.getD_elementType?_coerce`).
-/

namespace DataMapper

/-- The bits of a type of integers. -/
def SqlType.bits? : SqlType → Option Nat
  | tinyInt => some 8
  | smallInt => some 16
  | integer => some 32
  | bigInt => some 64
  | _ => none

namespace Value

variable {store type : SqlType} {value : Value} {items : List Value}

/-- Whether a value is an integer of at most the bits of a type of integers. -/
def FitsInto (value : Value) (store : SqlType) : Prop :=
  ∃ narrow ∈ value.scalarType?.bind SqlType.bits?, ∃ wide ∈ store.bits?, narrow ≤ wide

instance (value : Value) (store : SqlType) : Decidable (value.FitsInto store) :=
  inferInstanceAs (Decidable (∃ _ ∈ _, _))

/-! ## Widening -/

theorem coerce_array (store : SqlType) (items : List Value) :
    (array items).coerce store = .array (items.map (coerce store)) := by
  rw [coerce, coerceItems_eq]

/-- A value that is no array stays as it is, or it is a scalar and becomes one of the type of
the store. -/
theorem coerce_cases (store : SqlType) (single : value.isArray = false) :
    value.coerce store = value ∨
      (∃ type, value.scalarType? = some type) ∧
        (value.coerce store).scalarType? = some store := by
  cases value with
  | array items => cases single
  | tinyInt n => cases store <;> first | exact .inl rfl | exact .inr ⟨⟨_, rfl⟩, rfl⟩
  | smallInt n => cases store <;> first | exact .inl rfl | exact .inr ⟨⟨_, rfl⟩, rfl⟩
  | int n => cases store <;> first | exact .inl rfl | exact .inr ⟨⟨_, rfl⟩, rfl⟩
  | _ => exact .inl rfl

/-- A scalar of the type of the store stays as it is. -/
theorem coerce_of_scalarType? (own : value.scalarType? = some store) :
    value.coerce store = value := by
  cases value <;> cases own <;> rfl

theorem isArray_coerce (store : SqlType) (value : Value) :
    (value.coerce store).isArray = value.isArray := by
  cases value with
  | array items => rw [coerce_array]; rfl
  | tinyInt n | smallInt n | int n => cases store <;> rfl
  | _ => rfl

/-- The leaves of a widened value are its leaves, each widened. -/
theorem leaves_coerce (store : SqlType) (value : Value) :
    (value.coerce store).leaves = value.leaves.map (coerce store) := by
  induction value using array_induction with
  | single value single =>
      rcases coerce_cases store single with same | ⟨⟨type, own⟩, widened⟩
      · rw [same]
        cases value with
        | null => rfl
        | array items => cases single
        | _ => exact congrArg (fun leaf => [leaf]) same.symm
      · rw [leaves_of_scalarType? widened, leaves_of_scalarType? own]
        rfl
  | array items ih =>
      rw [coerce_array, leaves_array, leaves_array, List.flatMap_map, List.map_flatMap]
      exact List.flatMap_congr ih

theorem depth_coerce (store : SqlType) (value : Value) :
    (value.coerce store).depth = value.depth := by
  induction value using array_induction with
  | single value single =>
      cases value with
      | array items => cases single
      | tinyInt n | smallInt n | int n => cases store <;> rfl
      | _ => rfl
  | array items ih =>
      rw [coerce_array]
      cases items with
      | nil => rfl
      | cons first rest =>
          rw [List.map_cons, depth, depth, ih first (List.mem_cons_self ..)]

/-- A value of which each leaf stays as it is stays as it is. -/
theorem coerce_of_leaves :
    (∀ leaf ∈ value.leaves, leaf.coerce store = leaf) → value.coerce store = value := by
  induction value using array_induction with
  | single value single =>
      intro stays
      cases value with
      | null => rfl
      | array items => cases single
      | _ => exact stays _ (List.mem_singleton_self _)
  | array items ih =>
      intro stays
      rw [leaves_array] at stays
      have each : ∀ item ∈ items, item.coerce store = item := fun item hitem =>
        ih item hitem fun leaf hleaf => stays leaf (List.mem_flatMap.mpr ⟨item, hitem, hleaf⟩)
      rw [coerce_array, List.map_congr_left each, List.map_id']

/-- A leafless array has nothing to widen. -/
theorem coerce_of_isLeafless (leafless : value.isLeafless = true) :
    value.coerce store = value := by
  refine coerce_of_leaves fun leaf hleaf => ?_
  rw [leaves_of_isLeafless leafless] at hleaf
  cases hleaf

/-- Widening twice is widening once. -/
theorem coerce_coerce (store : SqlType) (value : Value) :
    (value.coerce store).coerce store = value.coerce store := by
  induction value using array_induction with
  | single value single =>
      rcases coerce_cases store single with same | ⟨-, widened⟩
      · rw [same, same]
      · exact coerce_of_scalarType? widened
  | array items ih =>
      rw [coerce_array, coerce_array, List.map_map]
      exact congrArg array (List.map_congr_left ih)

end Value

/-! ## Types of the store -/

namespace ArrayColumns

variable {arrays : ArrayColumns} {element store : SqlType} {name : String}

/-- A store with array columns keeps simple element types, and may keep 8-bit integers as
16-bit ones. -/
theorem storeElement_eq_ok_iff :
    arrays.storeElement element name = .ok store ↔
      arrays.supported = true ∧ arrays.simple.holds element = true ∧
        (if arrays.widensTinyInt && element == .tinyInt then .smallInt else element) = store := by
  rw [storeElement]
  cases arrays.supported with
  | false => exact iff_of_false nofun nofun
  | true =>
      cases arrays.simple.holds element with
      | false => exact iff_of_false nofun nofun
      | true =>
          simp only [Bool.not_true, Bool.false_eq_true, if_false, true_and]
          split <;> rw [Except.ok.injEq]

/-- What a store keeps is an element type or stands for 8-bit integers. -/
theorem storeElement_cases (h : arrays.storeElement element name = .ok store) :
    store = element ∨ element = .tinyInt ∧ store = .smallInt := by
  obtain ⟨-, -, kept⟩ := storeElement_eq_ok_iff.mp h
  split at kept
  next narrow =>
    rw [Bool.and_eq_true] at narrow
    exact .inr ⟨eq_of_beq narrow.2, kept.symm⟩
  next => exact .inl kept.symm

/-- A store keeps no arrays of arrays for what is no array. -/
theorem dimensions_of_storeElement (h : arrays.storeElement element name = .ok store)
    (single : element.dimensions = 0) : store.dimensions = 0 := by
  rcases storeElement_cases h with rfl | ⟨-, rfl⟩
  · exact single
  · rfl

/-- What a store keeps it keeps as it is. -/
theorem storeElement_again (h : arrays.storeElement element name = .ok store) :
    arrays.storeElement store name = .ok store := by
  obtain ⟨supported, holds, kept⟩ := storeElement_eq_ok_iff.mp h
  rw [storeElement_eq_ok_iff]
  split at kept
  next => cases kept; exact ⟨supported, rfl, if_neg (by simp)⟩
  next wide => cases kept; exact ⟨supported, holds, if_neg wide⟩

end ArrayColumns

namespace Value

variable {arrays : ArrayColumns} {store : SqlType} {name : String}

/-- A scalar that is widened for its own type has the type that the store keeps. -/
theorem scalarType?_coerce {leaf : Value} {own : SqlType} (typed : leaf.scalarType? = some own)
    (h : arrays.storeElement own name = .ok store) :
    (leaf.coerce store).scalarType? = some store := by
  rcases ArrayColumns.storeElement_cases h with rfl | ⟨rfl, rfl⟩
  · rw [coerce_of_scalarType? typed, typed]
  · cases leaf <;> cases typed
    rfl

/-- What is widened to the type that its leaves have, or to that of its slot when they have none
in common, has the type of the store when its leaves have one in common then. -/
theorem getD_elementType?_coerce (value : Value) (slot : SqlType)
    (h : arrays.storeElement (value.elementType?.getD slot) name = .ok store) :
    (value.coerce store).elementType?.getD store = store := by
  cases common : value.elementType? with
  | some own =>
      rw [common, Option.getD_some] at h
      obtain ⟨filled, alike⟩ := elementType?_eq_some_iff.mp common
      have widened : (value.coerce store).elementType? = some store := by
        rw [elementType?_eq_some_iff, leaves_coerce, List.forall_mem_map]
        exact ⟨mt List.map_eq_nil_iff.mp filled, fun leaf hleaf =>
          scalarType?_coerce (alike leaf hleaf) h⟩
      rw [widened, Option.getD_some]
  | none =>
      cases again : (value.coerce store).elementType? with
      | none => rfl
      | some type =>
          rw [Option.getD_some]
          obtain ⟨filled, alike⟩ := elementType?_eq_some_iff.mp again
          rw [leaves_coerce] at filled alike
          rw [List.forall_mem_map] at alike
          -- a leaf that did change settles the type, and if none did they were alike before
          by_contra other
          have same : ∀ leaf ∈ value.leaves, leaf.scalarType? = some type := by
            intro leaf hleaf
            rcases coerce_cases store (isArray_of_mem_leaves hleaf) with same | ⟨-, widened⟩
            · rw [← same]
              exact alike leaf hleaf
            · exact absurd (Option.some.inj ((alike leaf hleaf).symm.trans widened)) other
          have before : value.elementType? = some type :=
            elementType?_eq_some_iff.mpr ⟨mt List.map_eq_nil_iff.mpr filled, same⟩
          rw [common] at before
          cases before

end Value

end DataMapper
