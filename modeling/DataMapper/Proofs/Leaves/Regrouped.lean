import DataMapper.Proofs.FieldType.Places
import DataMapper.Proofs.Leaves

/-!
# Arrays with the same leaves

A leaf is a value at a place that is neither an array nor the NULL, and the leaves of a value
are what stands at such places (`Value.mem_leaves_iff`).  So the element type can be said by
places: there is a leaf at one, and every leaf, at whatever place, has the type.

`Value.Regrouped` is how the items of an array can be changed without touching a leaf: items
change their order, the NULL or an empty array comes in, an array is opened in its place, and any
of this happens inside of an item, forth or back.  Step by step every array can be opened and
every NULL dropped until only the leaves are there (`Value.regrouped_leaves`).  So this relation
is neither more nor less than having the same leaves in some order (`Value.regrouped_iff`).  The
element type is read off the leaves and keeps still under all of it
(`Value.commonType_of_leaves`).
-/

namespace DataMapper.Value

variable {value leaf : Value} {items others rest : List Value}

/-! ## Leaves by place -/

/-- Whether a leaf stands at a place: a value that is neither an array nor the NULL. -/
structure HasLeafAt (value : Value) (place : List Nat) (leaf : Value) : Prop where
  found : value.at? place = some leaf
  single : leaf.isArray = false
  filled : leaf ≠ .null

/-- The leaves of an array are those of its items. -/
theorem exists_hasLeafAt_array :
    (∃ place, (array items).HasLeafAt place leaf) ↔
      ∃ item ∈ items, ∃ place, item.HasLeafAt place leaf := by
  constructor
  · rintro ⟨place, found, single, filled⟩
    cases place with
    | nil =>
        cases found
        cases single
    | cons i place =>
        obtain ⟨item, here, found⟩ := Option.bind_eq_some_iff.mp found
        exact ⟨item, List.mem_of_getElem? here, place, found, single, filled⟩
  · rintro ⟨item, mem, place, found, single, filled⟩
    obtain ⟨i, here⟩ := List.mem_iff_getElem?.mp mem
    exact ⟨i :: place, Option.bind_eq_some_iff.mpr ⟨item, here, found⟩, single, filled⟩

/-- The leaves of a value are what stands at the places of leaves. -/
theorem mem_leaves_iff : leaf ∈ value.leaves ↔ ∃ place, value.HasLeafAt place leaf := by
  induction value using array_induction with
  | single value single =>
      constructor
      · intro mem
        by_cases filled : value = .null
        · subst filled
          cases mem
        · rw [leaves_of_single single filled, List.mem_singleton] at mem
          subst mem
          exact ⟨[], rfl, single, filled⟩
      · rintro ⟨place, found, -, filled⟩
        cases place with
        | nil =>
            cases found
            rw [leaves_of_single single filled]
            exact List.mem_singleton_self leaf
        | cons i place =>
            rw [at?_of_single single] at found
            cases found
  | array items ih =>
      rw [leaves_array, List.mem_flatMap, exists_hasLeafAt_array]
      exact exists_congr fun item => and_congr_right fun mem => ih item mem

/-- What is no array binds as the type of a scalar. -/
theorem sqlType?_of_single (single : value.isArray = false) :
    value.sqlType? = value.scalarType? := by
  cases value <;> first | rfl | cases single

/-! ## Regrouping -/

/-- Whether the items of one array become those of another without a leaf being touched. -/
inductive Regrouped : List Value → List Value → Prop where
  | reorder {items others : List Value} (perm : items.Perm others) : Regrouped items others
  | null (rest : List Value) : Regrouped rest (.null :: rest)
  | empty (rest : List Value) : Regrouped rest (.array [] :: rest)
  | flatten (items rest : List Value) : Regrouped (.array items :: rest) (items ++ rest)
  | inside {items others : List Value} (inner : Regrouped items others) (rest : List Value) :
      Regrouped (.array items :: rest) (.array others :: rest)
  | symm {items others : List Value} : Regrouped items others → Regrouped others items
  | trans {items others more : List Value} :
      Regrouped items others → Regrouped others more → Regrouped items more

/-- The leaves stay, if not their order. -/
theorem Regrouped.perm (regrouped : Regrouped items others) :
    (array items).leaves.Perm (array others).leaves := by
  simp only [leaves_array]
  induction regrouped with
  | reorder perm => exact perm.flatMap_right leaves
  | null rest => rw [List.flatMap_cons, leaves, List.nil_append]
  | empty rest => rw [List.flatMap_cons, leaves_array, List.flatMap_nil, List.nil_append]
  | flatten items rest => rw [List.flatMap_cons, leaves_array, List.flatMap_append]
  | inside _ rest ih =>
      rw [List.flatMap_cons, List.flatMap_cons, leaves_array, leaves_array]
      exact ih.append_right _
  | symm _ ih => exact ih.symm
  | trans _ _ first second => exact first.trans second

/-- Items are regrouped behind another item too: they are closed up in an array and opened
again. -/
theorem Regrouped.cons (item : Value) (regrouped : Regrouped items others) :
    Regrouped (item :: items) (item :: others) := by
  have close (items : List Value) : Regrouped (item :: items) [.array items, item] :=
    .trans (.reorder (List.perm_append_singleton item items).symm) (.symm (.flatten items [item]))
  exact .trans (close items) (.trans (.inside regrouped [item]) (.symm (close others)))

theorem Regrouped.append_left (before : List Value) (regrouped : Regrouped items others) :
    Regrouped (before ++ items) (before ++ others) := by
  induction before with
  | nil => exact regrouped
  | cons item before ih => exact .cons item ih

/-- A value can be opened down to its leaves. -/
theorem regrouped_cons (value : Value) (rest : List Value) :
    Regrouped (value :: rest) (value.leaves ++ rest) := by
  induction value using array_induction generalizing rest with
  | single value single =>
      by_cases filled : value = .null
      · subst filled
        exact .symm (.null rest)
      · rw [leaves_of_single single filled]
        exact .reorder (.refl _)
  | array items each =>
      rw [leaves_array]
      refine .trans (.flatten items rest) ?_
      induction items with
      | nil => exact .reorder (.refl _)
      | cons item items ih =>
          obtain ⟨first, others⟩ := List.forall_mem_cons.mp each
          rw [List.flatMap_cons, List.append_assoc]
          exact .trans (first (items ++ rest)) (.append_left item.leaves (ih others))

/-- All items can be opened down to their leaves. -/
theorem regrouped_leaves (items : List Value) : Regrouped items (array items).leaves := by
  have opened := regrouped_cons (array items) []
  rw [List.append_nil] at opened
  have closed := Regrouped.flatten items []
  rw [List.append_nil] at closed
  exact .trans (.symm closed) opened

/-- Arrays are regrouped into each other exactly when they have the same leaves in some order. -/
theorem regrouped_iff :
    Regrouped items others ↔ (array items).leaves.Perm (array others).leaves :=
  ⟨Regrouped.perm, fun perm =>
    .trans (regrouped_leaves items) (.trans (.reorder perm) (.symm (regrouped_leaves others)))⟩

/-! ## The element type -/

/-- A value has an element type when there is a leaf at some place and every leaf binds as it. -/
theorem elementType?_eq_some_iff_places {type : SqlType} :
    value.elementType? = some type ↔
      (∃ place leaf, value.HasLeafAt place leaf) ∧
        ∀ place leaf, value.HasLeafAt place leaf → leaf.sqlType? = some type := by
  rw [elementType?_eq_some_iff]
  constructor
  · rintro ⟨filled, own⟩
    obtain ⟨leaf, mem⟩ := List.exists_mem_of_ne_nil _ filled
    obtain ⟨place, there⟩ := mem_leaves_iff.mp mem
    refine ⟨⟨place, leaf, there⟩, fun place leaf there => ?_⟩
    rw [sqlType?_of_single there.single]
    exact own leaf (mem_leaves_iff.mpr ⟨place, there⟩)
  · rintro ⟨⟨place, leaf, there⟩, own⟩
    refine ⟨List.ne_nil_of_mem (mem_leaves_iff.mpr ⟨place, there⟩), fun leaf mem => ?_⟩
    obtain ⟨place, there⟩ := mem_leaves_iff.mp mem
    rw [← sqlType?_of_single there.single]
    exact own place leaf there

/-- An array has an element type exactly when there is a leaf at some place and every leaf binds
as that type.  However it is regrouped it has the same element type or still none, and it has none
if a variant stands anywhere in it. -/
theorem commonType_of_leaves (items : List Value) :
    (∀ type, (array items).elementType? = some type ↔
      (∃ place leaf, (array items).HasLeafAt place leaf) ∧
        ∀ place leaf, (array items).HasLeafAt place leaf → leaf.sqlType? = some type) ∧
    (∀ others, Regrouped items others →
      (array others).elementType? = (array items).elementType?) ∧
    ∀ place typeName variant, (array items).at? place = some (.enumeration typeName variant) →
      (array items).elementType? = none := by
  refine ⟨fun type => elementType?_eq_some_iff_places, fun others regrouped => ?_,
    fun place typeName variant found => ?_⟩
  · exact (elementType?_of_perm (regrouped_iff.mp regrouped)).symm
  · refine Option.eq_none_iff_forall_ne_some.mpr fun type common => ?_
    have own := (elementType?_eq_some_iff_places.mp common).2 place _ ⟨found, rfl, nofun⟩
    cases own

/-- Two integers that change their places in a ragged array, and a variant beside one of them. -/
theorem commonType_of_leaves_ragged :
    let items := [array [int 1, null], int 2]
    let others := [array [array [], array [int 2]], int 1]
    let mixed := [array [int 1, enumeration "Color" "Red"], int 2]
    Regrouped items others ∧ (array items).elementType? = some .integer ∧
      (array others).elementType? = some .integer ∧
      (array mixed).at? [0, 1] = some (.enumeration "Color" "Red") ∧
      (array mixed).elementType? = none := by
  intro items others mixed
  have regrouped : Regrouped items others := regrouped_iff.mpr (.swap (int 2) (int 1) [])
  have common : (array items).elementType? = some .integer := by decide
  have same := (commonType_of_leaves items).2.1 others regrouped
  exact ⟨regrouped, common, same.trans common, rfl, (commonType_of_leaves mixed).2.2 [0, 1] _ _ rfl⟩

end DataMapper.Value
