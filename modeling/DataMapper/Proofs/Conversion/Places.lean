import DataMapper.Proofs.FieldType.Places

/-!
# Written values by place

Without converters of a user, the registry of a built-in dialect changes two kinds of values:
truth values, if it accepts them, and variants.  `Value.StoredAs` is all that becomes of a value.
An array stays an array of as many items, the NULL and any other scalar stay as they are, a truth
value becomes an 8-bit integer and a variant the text of its name.  None of these makes an array
of what is none or takes one away.

A registry goes through nested arrays to the values in them.  So if this is all that it does to
a value, it is all that it does at any place in one (`Conversions.rel_at?_of_writeValue`): no place
is lost and none is added, and what stands at one is what stood there, as it is stored.
-/

namespace DataMapper

namespace Value

/-- What a registry makes of a value. -/
inductive StoredAs (c : Conversions) : Value → Value → Prop where
  | null : StoredAs c .null .null
  | array {items others : List Value} (same : others.length = items.length) :
      StoredAs c (.array items) (.array others)
  | variant (typeName name : String) : StoredAs c (.enumeration typeName name) (.text name)
  | truth (b : Bool) (accepted : c.hasWriter (.bool b) = true) :
      StoredAs c (.bool b) (.tinyInt (if b then 1 else 0))
  | scalar {value : Value} {type : SqlType} (own : value.scalarType? = some type)
      (plain : c.hasWriter value = false) : StoredAs c value value

namespace StoredAs

variable {c : Conversions} {value stored : Value}

theorem isArray_eq (h : StoredAs c value stored) : stored.isArray = value.isArray := by
  cases h <;> rfl

/-- Byte strings are stored for byte strings only. -/
theorem isBytes_eq (h : StoredAs c value stored) : stored.isBytes = value.isBytes := by
  cases h <;> rfl

theorem isNull_eq (h : StoredAs c value stored) : stored.isNull = value.isNull := by
  cases h <;> rfl

/-- The NULL is stored for the NULL only. -/
theorem eq_null_iff (h : StoredAs c value stored) : stored = .null ↔ value = .null := by
  cases h with
  | scalar => exact Iff.rfl
  | null => exact Iff.rfl
  | _ => exact iff_of_false nofun nofun

theorem ne_enumeration (h : StoredAs c value stored) (typeName name : String) :
    stored ≠ .enumeration typeName name := by
  rintro rfl
  cases h with
  | scalar own => cases own

variable {here there : Option Value}

theorem eq_some_null_iff (h : Option.Rel (StoredAs c) here there) :
    there = some .null ↔ here = some .null := by
  cases h with
  | none => exact Iff.rfl
  | some h => rw [Option.some.injEq, Option.some.injEq, h.eq_null_iff]

theorem ne_some_enumeration (h : Option.Rel (StoredAs c) here there) (typeName name : String) :
    there ≠ some (.enumeration typeName name) := by
  rintro rfl
  cases h with
  | some h => exact h.ne_enumeration typeName name rfl

end StoredAs

end Value

/-! ## Registries -/

namespace Conversions

open Value

variable {c : Conversions} {value stored : Value} {items : List Value}

/-- What a registry makes of every value it makes of what stands at a place. -/
theorem rel_at?_of_writeValue
    (stores : ∀ {value stored}, c.writeValue value = .ok stored → StoredAs c value stored)
    (writes : c.writeValue value = .ok stored) (place : List Nat) :
    Option.Rel (StoredAs c) (value.at? place) (stored.at? place) := by
  induction value using array_induction generalizing stored place with
  | single value single =>
      cases place with
      | nil => exact .some (stores writes)
      | cons i place =>
          have still : stored.isArray = false := (stores writes).isArray_eq.trans single
          rw [at?_of_single single, at?_of_single still]
          exact .none
  | array items ih =>
      cases place with
      | nil => exact .some (stores writes)
      | cons i place =>
          obtain ⟨others, hothers, rfl⟩ := Outcome.map_eq_ok.mp writes
          rw [writeItems_eq, Outcome.mapM_eq_ok_iff_forall₂] at hothers
          have here := rel_getElem? hothers i
          rw [at?, at?]
          -- an item is at the position in both arrays or in none
          generalize found : items[i]? = item? at here
          generalize others[i]? = other? at here
          cases here with
          | none => exact .none
          | some writes => exact ih _ (List.mem_of_getElem? found) writes place

/-- An array without leaves is written for one without leaves only. -/
theorem isLeafless_of_writeValue
    (stores : ∀ {value stored}, c.writeValue value = .ok stored → StoredAs c value stored)
    (writes : c.writeValue value = .ok stored) : stored.isLeafless = value.isLeafless := by
  induction value using array_induction generalizing stored with
  | single value single =>
      have still : stored.isArray = false := (stores writes).isArray_eq.trans single
      rw [isLeafless_of_single single, isLeafless_of_single still]
  | array items ih =>
      obtain ⟨others, hothers, rfl⟩ := Outcome.map_eq_ok.mp writes
      rw [writeItems_eq, Outcome.mapM_eq_ok_iff_forall₂] at hothers
      rw [isLeafless, isLeafless, areLeafless_eq, areLeafless_eq]
      clear writes
      induction hothers with
      | nil => rfl
      | cons here _ rest =>
          obtain ⟨first, later⟩ := List.forall_mem_cons.mp ih
          rw [List.all_cons, List.all_cons, first here, rest later]

/-- An array is written as one of as many items. -/
theorem storedAs_array (writes : c.writeValue (.array items) = .ok stored) :
    StoredAs c (.array items) stored := by
  obtain ⟨others, hothers, rfl⟩ := Outcome.map_eq_ok.mp writes
  rw [writeItems_eq, Outcome.mapM_eq_ok_iff_forall₂] at hothers
  exact .array hothers.length_eq.symm

/-- Without converters, only variants change. -/
theorem storedAs_of_nil (none : c.converters = []) (writes : c.writeValue value = .ok stored) :
    StoredAs c value stored := by
  obtain ⟨converters, simple⟩ := c
  cases none
  cases value with
  | null => cases writes; exact .null
  | array items => exact storedAs_array writes
  | enumeration typeName name => cases writes; exact .variant typeName name
  | _ => cases writes; exact .scalar rfl rfl

/-- With truth values as 8-bit integers, only variants and truth values change. -/
theorem storedAs_of_booleanAsTinyInt (one : c.converters = [.booleanAsTinyInt])
    (writes : c.writeValue value = .ok stored) : StoredAs c value stored := by
  obtain ⟨converters, simple⟩ := c
  cases one
  cases value with
  | null => cases writes; exact .null
  | array items => exact storedAs_array writes
  | enumeration typeName name => cases writes; exact .variant typeName name
  | bool b => cases writes; exact .truth b rfl
  | _ => cases writes; exact .scalar rfl rfl

end Conversions

/-! ## Built-in dialects -/

namespace Dialect

open Value

variable {d : Dialect}

theorem storedAs_of_writeValue (known : d ∈ builtIn) {value stored : Value}
    (writes : (d.conversions []).writeValue value = .ok stored) :
    StoredAs (d.conversions []) value stored := by
  rcases converters_of_builtIn known with none | ⟨one, -⟩
  · exact Conversions.storedAs_of_nil none writes
  · exact Conversions.storedAs_of_booleanAsTinyInt one writes

/-- In a built-in dialect without converters of a user, every value is written.  What is written
has at every place what the value has there, as it is stored: an array of as many items, the NULL
exactly where the value has it, and nowhere a variant.  Written again it stays as it is. -/
theorem storedAs_at_of_writeValue (known : d ∈ builtIn) (value : Value) :
    ∃ stored, (d.conversions []).writeValue value = .ok stored ∧
      (∀ place, Option.Rel (StoredAs (d.conversions [])) (value.at? place) (stored.at? place)) ∧
      (∀ place, stored.at? place = some .null ↔ value.at? place = some .null) ∧
      (∀ place typeName name, stored.at? place ≠ some (.enumeration typeName name)) ∧
      (d.conversions []).writeValue stored = .ok stored := by
  obtain ⟨stored, writes⟩ := writesAll known value
  have places := Conversions.rel_at?_of_writeValue (storedAs_of_writeValue known) writes
  exact ⟨stored, writes, places, fun place => StoredAs.eq_some_null_iff (places place),
    fun place => StoredAs.ne_some_enumeration (places place),
    (settles known).written value stored writes⟩

/-- Truth values, a variant and the NULL in a ragged array. -/
theorem storedAs_at_of_writeValue_ragged :
    let value : Value := .array [.array [.bool true, .null], .enumeration "Color" "Red", .array []]
    let stored : Value := .array [.array [.tinyInt 1, .null], .text "Red", .array []]
    mysql ∈ builtIn ∧ (mysql.conversions []).writeValue value = .ok stored ∧
      stored.at? [0, 1] = some .null ∧ (mysql.conversions []).writeValue stored = .ok stored := by
  intro value stored
  have known : mysql ∈ builtIn := by simp [builtIn]
  obtain ⟨written, writes, -, nulls, -, again⟩ := storedAs_at_of_writeValue known value
  obtain rfl : stored = written := Except.ok.inj writes
  exact ⟨known, writes, (nulls [0, 1]).mpr rfl, again⟩

end Dialect

end DataMapper
