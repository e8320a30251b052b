import DataMapper.Proofs.Entity.Labels
import DataMapper.Proofs.Entity.ReadBack

/-!
# Definitions that are accepted

A definition is checked where it is declared and the description it gives is checked again
where it is first used.  The two look for repeated columns in their own ways: the first by the
keys of columns, which are texts, the second by the equivalence of identifiers.

The key of a quoted column has its quotes, so it is the key of an unquoted column only when
that column spells them.  Where no column holds a double quote, two columns have one key
exactly when they are equivalent (`FieldDefinition.columnKey_eq_iff`), and a column is reported
exactly when two of them are (`repeatedColumns_ne_nil_iff`).

An accepted name holds no double quote and is not blank, so a definition without violations
describes a type that resolves (`EntityDefinition.resolve_of_violations`).
-/

namespace DataMapper

/-! ## Keys of columns -/

namespace Text

/-- The double quote is what no other character becomes. -/
theorem eq_of_toLower_eq {c : Char} (h : c.toLower = '"') : c = '"' := by
  unfold Char.toLower at h
  split at h
  next upper =>
    have first : 65 ≤ c.toNat := UInt32.le_iff_toNat_le.mp upper.1
    have last : c.toNat ≤ 90 := UInt32.le_iff_toNat_le.mp upper.2
    have small : (c.toNat + 32) % 2 ^ 32 = 34 := congrArg Char.toNat h
    omega
  next => exact h

/-- A text in double quotes is no text without them made small. -/
theorem asciiLower_ne {name : String} (plain : '"' ∉ name.toList) (other : String) :
    asciiLower name ≠ "\"" ++ other ++ "\"" := by
  intro same
  have chars := congrArg String.toList same
  rw [asciiLower, String.toList_ofList] at chars
  have quote : '"' ∈ name.toList.map Char.toLower := by simp [chars]
  obtain ⟨c, mem, lower⟩ := List.mem_map.mp quote
  rw [eq_of_toLower_eq lower] at mem
  exact plain mem

end Text

namespace FieldDefinition

variable {f g : FieldDefinition}

/-- Where no column holds a double quote, two columns have one key exactly when their
identifiers are equivalent. -/
theorem columnKey_eq_iff (hf : '"' ∉ f.column.toList) (hg : '"' ∉ g.column.toList) :
    f.columnKey = g.columnKey ↔ f.identifier.equiv g.identifier = true := by
  rw [Identifier.equiv_iff, columnKey, columnKey, identifier, identifier, Identifier.key,
    Identifier.key]
  cases f.quoted with
  | true =>
      cases g.quoted with
      | true => simp [← String.toList_inj]
      | false => exact iff_of_false (Text.asciiLower_ne hg f.column).symm (by simp)
  | false =>
      cases g.quoted with
      | true => exact iff_of_false (Text.asciiLower_ne hf g.column) (by simp)
      | false => simp [Text.asciiLower, Text.foldLabel, ← String.toList_inj]

end FieldDefinition

/-- No column is reported when no two of them have one key, and none has one that was seen. -/
theorem repeatedColumns_eq_nil_iff {seen : List String} {fields : List FieldDefinition} :
    repeatedColumns seen fields = [] ↔
      (∀ f ∈ fields, f.columnKey ∉ seen) ∧
      fields.Pairwise fun f g => f.columnKey ≠ g.columnKey := by
  induction fields generalizing seen with
  | nil => simp [repeatedColumns]
  | cons f rest ih =>
      rw [repeatedColumns, List.forall_mem_cons, List.pairwise_cons]
      split
      next found =>
        refine iff_of_false nofun ?_
        rintro ⟨⟨new, -⟩, -⟩
        exact new (List.contains_iff_mem.mp found)
      next new =>
        have first : f.columnKey ∉ seen := fun mem => new (List.contains_iff_mem.mpr mem)
        simp only [ih, List.mem_cons, not_or, forall_and]
        constructor
        · rintro ⟨⟨later, seen⟩, apart⟩
          exact ⟨⟨first, seen⟩, fun g mem same => later g mem same.symm, apart⟩
        · rintro ⟨⟨-, seen⟩, later, apart⟩
          exact ⟨⟨fun g mem same => later g mem same.symm, seen⟩, apart⟩

/-- Where no column holds a double quote, a column is reported exactly when two of them have
equivalent identifiers. -/
theorem repeatedColumns_eq_nil_iff_of_plain {fields : List FieldDefinition}
    (plain : ∀ f ∈ fields, '"' ∉ f.column.toList) :
    repeatedColumns [] fields = [] ↔
      fields.Pairwise fun f g => f.identifier.equiv g.identifier = false := by
  rw [repeatedColumns_eq_nil_iff, and_iff_right fun f _ => List.not_mem_nil]
  refine List.Pairwise.iff_of_mem fun {f g} hf hg => ?_
  rw [← Bool.not_eq_true, Ne, FieldDefinition.columnKey_eq_iff (plain f hf) (plain g hg)]

theorem repeatedColumns_ne_nil_iff {fields : List FieldDefinition}
    (plain : ∀ f ∈ fields, '"' ∉ f.column.toList) :
    repeatedColumns [] fields ≠ [] ↔
      ∃ f g, [f, g].Sublist fields ∧ f.identifier.equiv g.identifier = true := by
  rw [Ne, repeatedColumns_eq_nil_iff_of_plain plain, List.pairwise_iff_forall_sublist]
  simp only [not_forall, Bool.not_eq_false, exists_prop]

/-! ## Accepted definitions -/

/-- An accepted name has a character that is not blank and holds none that it must not. -/
theorem nameViolation?_eq_none_iff {what name : String} :
    nameViolation? what name = none ↔
      Text.isBlank name = false ∧ ∀ c ∈ name.toList, c ∉ badCharacters := by
  rw [nameViolation?]
  split
  next blank => simp [blank]
  next filled => simp [filled]

/-- An accepted name is not empty and holds no double quote. -/
theorem plain_of_nameViolation? {what name : String} (h : nameViolation? what name = none) :
    name.isEmpty = false ∧ '"' ∉ name.toList := by
  obtain ⟨filled, good⟩ := nameViolation?_eq_none_iff.mp h
  constructor
  · rw [Bool.eq_false_iff]
    intro empty
    rw [String.isEmpty_iff.mp empty] at filled
    cases filled
  · exact fun quote => good '"' quote (by decide)

namespace EntityDefinition

/-- A definition without violations has accepted names, and no column is reported. -/
theorem names_of_violations {e : EntityDefinition} (h : e.violations = []) :
    nameViolation? "table" e.table = none ∧
      (∀ f ∈ e.persistentFields, nameViolation? "column" f.column = none) ∧
      repeatedColumns [] e.persistentFields = [] := by
  simp only [violations, List.append_eq_nil_iff, Option.toList_eq_nil_iff,
    List.filterMap_eq_nil_iff] at h
  obtain ⟨⟨⟨-, table⟩, columns⟩, repeated⟩ := h
  exact ⟨table, columns, repeated⟩

/-- A definition without violations has columns that are not equivalent. -/
theorem pairwise_of_violations {e : EntityDefinition} (h : e.violations = []) :
    e.persistentFields.Pairwise fun f g => f.identifier.equiv g.identifier = false := by
  obtain ⟨-, columns, repeated⟩ := names_of_violations h
  refine (repeatedColumns_eq_nil_iff_of_plain fun f hf => ?_).mp repeated
  exact (plain_of_nameViolation? (columns f hf)).2

/-- A definition without violations describes a type that resolves, whatever the codecs of
its fields are. -/
theorem resolve_of_violations {e : EntityDefinition} (h : e.violations = []) (ref : TypeRef)
    (codecOf : String → Codec) (transients : List (String × Value)) :
    (e.entityType ref codecOf transients).resolve
      = .ok (e.entityType ref codecOf transients).describe := by
  obtain ⟨table, columns, -⟩ := names_of_violations h
  have named : (e.entityType ref codecOf transients).describe.table.name.isEmpty = false :=
    (plain_of_nameViolation? table).1
  refine EntityType.resolve_eq_ok.mpr ⟨?_, rfl⟩
  rw [PersistentEntity.fault?, if_neg (Bool.eq_false_iff.mp named), properties_describe,
    PersistentEntity.propertyFault?_eq_none_iff]
  refine ⟨List.forall_mem_map.mpr fun f hf => (plain_of_nameViolation? (columns f hf)).1,
    fun _ _ _ mem => absurd mem List.not_mem_nil, ?_⟩
  exact List.pairwise_map.mpr (pairwise_of_violations h)

/-- The checks of a definition and of its description agree.  A definition without violations,
whatever declaration it was read from, describes a type that resolves, and among columns that
hold no double quote one is reported exactly when the identifiers of two are equivalent. -/
theorem checks_agree :
    (∀ (e : EntityDefinition) (ref : TypeRef) (codecOf : String → Codec)
        (transients : List (String × Value)), e.violations = [] →
      (e.entityType ref codecOf transients).resolve
        = .ok (e.entityType ref codecOf transients).describe) ∧
      ∀ fields : List FieldDefinition, (∀ f ∈ fields, '"' ∉ f.column.toList) →
        (repeatedColumns [] fields ≠ [] ↔
          ∃ f g, [f, g].Sublist fields ∧ f.identifier.equiv g.identifier = true) := by
  constructor
  · intro e ref codecOf transients accepted
    exact resolve_of_violations accepted ref codecOf transients
  · intro fields plain
    exact repeatedColumns_ne_nil_iff plain

/-- A quoted column beside an unquoted one of the same letters is accepted, and another unquoted
one is reported. -/
theorem checks_agree_person :
    let codecOf : String → Codec := fun _ => .verbatim (.custom "citext") false
    let ref : TypeRef := ⟨⟨0⟩, "Person"⟩
    let first : FieldDefinition := ⟨"first", "name", true, false, false⟩
    let second : FieldDefinition := ⟨"second", "NAME", false, true, false⟩
    let third : FieldDefinition := ⟨"third", "Name", false, false, false⟩
    let person : EntityDefinition := ⟨"Person", "person", false, false, [first, second]⟩
    person.violations = [] ∧
      (person.entityType ref codecOf []).resolve
        = .ok (person.entityType ref codecOf []).describe ∧
      (∀ f ∈ [first, second, third], '"' ∉ f.column.toList) ∧
      repeatedColumns [] [first, second, third] ≠ [] := by
  intro codecOf ref first second third person
  have accepted : person.violations = [] := by decide
  have plain : ∀ f ∈ [first, second, third], '"' ∉ f.column.toList := by decide
  have before : [first, third].Sublist [first, second, third] := by decide
  obtain ⟨resolves, reports⟩ := checks_agree
  exact ⟨accepted, resolves person ref codecOf [] accepted, plain,
    (reports _ plain).mpr ⟨first, third, before, by decide⟩⟩

end EntityDefinition

end DataMapper
