import DataMapper.Value

/-!
# Leaves and their type

What holds of values in general is shown once for those that are no arrays and once for an array
whose items have it (`Value.array_induction`).  The leaves of an array are those of its items in
turn (`Value.leaves_array`), and none of them is an array.

A `TypeSearch` goes through the leaves of a value from left to right.  It knows one of three
things (`TypeSearch.Knows`): that there was no leaf yet, the type that all leaves had, or that
they have no type in common, and then it learns nothing more.  One more leaf leads from one of
the three to another (`TypeSearch.Knows.note`), and so does a whole value, however deep its
leaves are (`Value.knows_searchType`).  So a value has an element type exactly when there is a
leaf and all of them have that type (`Value.elementType?_eq_some_iff`), whatever their order
(`Value.elementType?_of_perm`).
-/

namespace DataMapper

namespace Value

variable {type : SqlType} {value other : Value} {items : List Value}

/-- What holds of all values but arrays, and of an array when it holds of its items, holds of
all values. -/
@[elab_as_elim]
theorem array_induction {motive : Value → Prop}
    (single : ∀ value, value.isArray = false → motive value)
    (array : ∀ items, (∀ item ∈ items, motive item) → motive (.array items)) (value : Value) :
    motive value := by
  match value with
  | .array items => exact array items fun item _ => array_induction single array item
  | .null | .bool _ | .tinyInt _ | .smallInt _ | .int _ | .bigInt _ | .float _ | .double _
  | .decimal _ | .text _ | .bytes _ | .date _ | .time _ | .timestamp _ | .timestampTz _
  | .uuid _ | .json _ | .enumeration _ _ => exact single _ rfl

/-! ## Leaves -/

theorem leaves_array (items : List Value) : (array items).leaves = items.flatMap leaves := by
  rw [leaves, leavesOf_eq]

/-- A value that is no array is its only leaf, if it is not the NULL. -/
theorem leaves_of_single (single : value.isArray = false) (filled : value ≠ .null) :
    value.leaves = [value] := by
  cases value with
  | null => exact absurd rfl filled
  | array items => cases single
  | _ => rfl

theorem leaves_of_scalarType? (own : value.scalarType? = some type) : value.leaves = [value] := by
  cases value <;> first | rfl | cases own

/-- The type of a scalar has no dimensions. -/
theorem dimensions_of_scalarType? (own : value.scalarType? = some type) : type.dimensions = 0 := by
  cases value <;> cases own <;> rfl

/-- No leaf is an array. -/
theorem isArray_of_mem_leaves {leaf : Value} : leaf ∈ value.leaves → leaf.isArray = false := by
  induction value using array_induction with
  | single value single =>
      intro hleaf
      cases value with
      | null => cases hleaf
      | array items => cases single
      | _ => cases List.mem_singleton.mp hleaf; rfl
  | array items ih =>
      intro hleaf
      rw [leaves_array, List.mem_flatMap] at hleaf
      obtain ⟨item, hitem, hleaf⟩ := hleaf
      exact ih item hitem hleaf

/-- What is no array is not leafless. -/
theorem isLeafless_of_single (single : value.isArray = false) : value.isLeafless = false := by
  cases value <;> first | rfl | cases single

/-- A leafless array has no leaves. -/
theorem leaves_of_isLeafless : value.isLeafless = true → value.leaves = [] := by
  induction value using array_induction with
  | single value single =>
      intro leafless
      rw [isLeafless_of_single single] at leafless
      cases leafless
  | array items ih =>
      intro leafless
      rw [isLeafless, areLeafless_eq, List.all_eq_true] at leafless
      rw [leaves_array, List.flatMap_eq_nil_iff]
      exact fun item hitem => ih item hitem (leafless item hitem)

end Value

/-! ## A search -/

namespace TypeSearch

variable {seen : TypeSearch} {leaves : List Value} {type : SqlType}

/-- What a search knows of the leaves that it went through.  After the first that has no type, or
another one, it only knows that they have none in common. -/
inductive Knows : TypeSearch → List Value → Prop where
  | nothing : Knows {} []
  | alike {leaves : List Value} {type : SqlType} (filled : leaves ≠ [])
      (own : ∀ leaf ∈ leaves, leaf.scalarType? = some type) : Knows ⟨some type, false⟩ leaves
  | apart {found : Option SqlType} {leaves : List Value}
      (differ : ∀ type, ¬ ∀ leaf ∈ leaves, leaf.scalarType? = some type) :
      Knows ⟨found, true⟩ leaves

/-- After the first type, a search only compares. -/
theorem note_of_found (first type : SqlType) (mixed : Bool) :
    note ⟨some first, mixed⟩ (some type)
      = if first = type then ⟨some first, mixed⟩ else ⟨some first, true⟩ :=
  rfl

/-- A search that knows of no common type goes on knowing of none. -/
theorem knows_note_of_apart (differ : ∀ type, ¬ ∀ leaf ∈ leaves, leaf.scalarType? = some type)
    (found : Option SqlType) (leaf : Value) :
    (note ⟨found, true⟩ leaf.scalarType?).Knows (leaves ++ [leaf]) := by
  have still : ∀ type, ¬ ∀ other ∈ leaves ++ [leaf], other.scalarType? = some type :=
    fun type own => differ type fun other mem => own other (List.mem_append_left _ mem)
  cases leaf.scalarType? with
  | none => exact .apart still
  | some type =>
      cases found with
      | none => exact .apart still
      | some first =>
          rw [note_of_found, ite_self]
          exact .apart still

/-- A leaf without a type has none in common with other leaves. -/
theorem apart_of_untyped {leaf : Value} (mem : leaf ∈ leaves) (untyped : leaf.scalarType? = none)
    (type : SqlType) : ¬ ∀ other ∈ leaves, other.scalarType? = some type := fun own =>
  Option.some_ne_none type ((own leaf mem).symm.trans untyped)

/-- One more leaf. -/
theorem Knows.note (known : seen.Knows leaves) (leaf : Value) :
    (seen.note leaf.scalarType?).Knows (leaves ++ [leaf]) := by
  have last : leaf ∈ leaves ++ [leaf] := List.mem_append_right _ (List.mem_singleton_self leaf)
  have filled : leaves ++ [leaf] ≠ [] := List.ne_nil_of_mem last
  cases known with
  | apart differ => exact knows_note_of_apart differ _ leaf
  | nothing =>
      cases typed : leaf.scalarType? with
      | none => exact .apart (apart_of_untyped last typed)
      | some type => exact .alike filled (List.forall_mem_singleton.mpr typed)
  | @alike _ first before own =>
      cases typed : leaf.scalarType? with
      | none => exact .apart (apart_of_untyped last typed)
      | some type =>
          rw [note_of_found]
          split
          next same =>
            subst same
            exact .alike filled
              (List.forall_mem_append.mpr ⟨own, List.forall_mem_singleton.mpr typed⟩)
          next other =>
            -- a common type would be that of the last leaf and that of one before it
            refine .apart fun common all => other ?_
            obtain ⟨earlier, mem⟩ := List.exists_mem_of_ne_nil _ before
            have there := (own earlier mem).symm.trans (all earlier (List.mem_append_left _ mem))
            have here := typed.symm.trans (all leaf last)
            exact (Option.some.inj there).trans (Option.some.inj here).symm

/-- The type that a search gives is the one that all leaves have. -/
theorem Knows.common?_eq_some_iff (known : seen.Knows leaves) :
    seen.common? = some type ↔ leaves ≠ [] ∧ ∀ leaf ∈ leaves, leaf.scalarType? = some type := by
  cases known with
  | nothing => exact iff_of_false nofun fun h => h.1 rfl
  | apart differ => exact iff_of_false nofun fun h => differ type h.2
  | @alike _ first filled own =>
      rw [common?, if_neg Bool.false_ne_true, Option.some.injEq]
      constructor
      · rintro rfl
        exact ⟨filled, own⟩
      · rintro ⟨-, all⟩
        obtain ⟨leaf, mem⟩ := List.exists_mem_of_ne_nil _ filled
        exact Option.some.inj ((own leaf mem).symm.trans (all leaf mem))

end TypeSearch

/-! ## The type of the leaves -/

namespace Value

variable {type : SqlType} {value other : Value}

/-- A value that is no array and not the NULL is one leaf more. -/
theorem searchType_of_single (single : value.isArray = false) (filled : value ≠ .null)
    (seen : TypeSearch) : value.searchType seen = seen.note value.scalarType? := by
  cases value with
  | null => exact absurd rfl filled
  | array items => cases single
  | _ => rfl

/-- A search through one more value knows of the leaves of the value too. -/
theorem knows_searchType (value : Value) {seen : TypeSearch} {before : List Value} :
    seen.Knows before → (value.searchType seen).Knows (before ++ value.leaves) := by
  induction value using array_induction generalizing seen before with
  | single value single =>
      intro known
      by_cases filled : value = .null
      · subst filled
        rwa [leaves, List.append_nil]
      · rw [searchType_of_single single filled, leaves_of_single single filled]
        exact known.note value
  | array items each =>
      rw [searchType, leaves_array]
      induction items generalizing seen before with
      | nil =>
          intro known
          rwa [List.flatMap_nil, List.append_nil]
      | cons item rest ih =>
          intro known
          obtain ⟨first, others⟩ := List.forall_mem_cons.mp each
          rw [searchTypes, List.flatMap_cons, ← List.append_assoc]
          exact ih others (first known)

/-- A value has an element type when it has a leaf and each leaf has the type. -/
theorem elementType?_eq_some_iff :
    value.elementType? = some type ↔
      value.leaves ≠ [] ∧ ∀ leaf ∈ value.leaves, leaf.scalarType? = some type := by
  cases value with
  | array items => exact (knows_searchType (array items) .nothing).common?_eq_some_iff
  | null => exact iff_of_false nofun fun h => h.1 rfl
  | _ =>
      exact ⟨fun own => ⟨List.cons_ne_nil _ _, List.forall_mem_singleton.mpr own⟩,
        fun h => h.2 _ (List.mem_singleton_self _)⟩

/-- Without leaves there is no element type. -/
theorem elementType?_of_leaves_eq_nil (none : value.leaves = []) : value.elementType? = .none :=
  Option.eq_none_iff_forall_ne_some.mpr fun _ common => (elementType?_eq_some_iff.mp common).1 none

/-- The order of the leaves does not matter. -/
theorem elementType?_of_perm (perm : value.leaves.Perm other.leaves) :
    value.elementType? = other.elementType? := by
  have empty : value.leaves = [] ↔ other.leaves = [] := by
    rw [← List.length_eq_zero_iff, perm.length_eq, List.length_eq_zero_iff]
  refine Option.ext fun type => ?_
  rw [elementType?_eq_some_iff, elementType?_eq_some_iff, Ne, Ne, empty]
  simp only [perm.mem_iff]

/-- An element type has no dimensions. -/
theorem dimensions_getD_elementType? (value : Value) (slot : SqlType) :
    (value.elementType?.getD slot.element).dimensions = 0 := by
  cases common : value.elementType? with
  | none => exact slot.dimensions_element
  | some type =>
      obtain ⟨filled, alike⟩ := elementType?_eq_some_iff.mp common
      obtain ⟨leaf, hleaf⟩ := List.exists_mem_of_ne_nil _ filled
      exact dimensions_of_scalarType? (alike leaf hleaf)

end Value

end DataMapper
