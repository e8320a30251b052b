import DataMapper.Proofs.Entity.Bound
import DataMapper.Proofs.FieldType.Places

/-!
# Widened values by place

Widening goes through nested arrays to the integers in them, so what stands at a place afterwards
is what stood there, widened (`Value.at?_coerce`).  No place is lost and none is added, and an
array has as many items as before.

What is no array and no integer stays as it is, the NULL among it.  An integer keeps its number
(`Value.toInt?_coerce`).  If it changes at all it becomes one of the store's type, which has more
bits (`Value.widened_coerce`), and it does change unless it does not fit, is passed over or has
that type already.  `Value.Kept` puts together what becomes of the value at a place.
-/

namespace DataMapper

namespace Value

/-- The bits of an integer. -/
def bits? (value : Value) : Option Nat := value.scalarType?.bind SqlType.bits?

/-- Whether a value is an integer, and another one is an integer with the same number, of the type
of a store and with more bits. -/
structure Widened (store : SqlType) (narrow wide : Value) : Prop where
  number : ∃ n, narrow.toInt? = some n ∧ wide.toInt? = some n
  bits : ∃ few many, narrow.bits? = some few ∧ wide.bits? = some many ∧ few < many
  stored : wide.scalarType? = some store

/-- What becomes of the value at a place.  An array stays an array of as many items, an integer
may become a wider one, and anything else stays as it is.  An integer that fits into the store's
type stays only if it is passed over or has that type. -/
inductive Kept (store : SqlType) : Value → Value → Prop where
  | array {items others : List Value} (same : others.length = items.length) :
      Kept store (.array items) (.array others)
  | leaf {value : Value} (single : value.isArray = false)
      (stays : value.FitsInto store → value.PassedOver store ∨ value.scalarType? = some store) :
      Kept store value value
  | integer {narrow wide : Value} (widened : Widened store narrow wide) : Kept store narrow wide

variable {value : Value} {store : SqlType}

/-! ## One value -/

/-- The number of an integer stays. -/
theorem toInt?_coerce (store : SqlType) (value : Value) :
    (value.coerce store).toInt? = value.toInt? := by
  cases value with
  | array items => rw [coerce_array]; rfl
  | tinyInt n => cases store <;> simp [coerce, toInt?]
  | smallInt n => cases store <;> simp [coerce, toInt?]
  | int n => cases store <;> simp [coerce, toInt?]
  | _ => rfl

/-- What is no array stays as it is, or it is an integer and becomes a wider one. -/
theorem widened_coerce (store : SqlType) (single : value.isArray = false) :
    value.coerce store = value ∨ Widened store value (value.coerce store) := by
  cases value with
  | array items => cases single
  | tinyInt n =>
      cases store with
      | smallInt | integer =>
          exact .inr ⟨⟨_, rfl, toInt?_coerce ..⟩, ⟨_, _, rfl, rfl, by decide⟩, rfl⟩
      | _ => exact .inl rfl
  | smallInt n =>
      cases store with
      | integer => exact .inr ⟨⟨_, rfl, toInt?_coerce ..⟩, ⟨_, _, rfl, rfl, by decide⟩, rfl⟩
      | _ => exact .inl rfl
  | int n =>
      cases store with
      | bigInt => exact .inr ⟨⟨_, rfl, toInt?_coerce ..⟩, ⟨_, _, rfl, rfl, by decide⟩, rfl⟩
      | _ => exact .inl rfl
  | _ => exact .inl rfl

theorem kept_coerce (store : SqlType) (value : Value) : Kept store value (value.coerce store) := by
  cases single : value.isArray with
  | true =>
      cases value with
      | array items =>
          rw [coerce_array]
          exact .array (List.length_map _)
      | _ => cases single
  | false =>
      obtain same | widened := widened_coerce store single
      · rw [same]
        refine .leaf single fun fits => ?_
        by_cases passed : value.PassedOver store
        · exact .inl passed
        · have reached := (scalarType?_coerce_iff fits).mpr passed
          rw [same] at reached
          exact .inr reached
      · exact .integer widened

/-! ## Places -/

/-- What stands at a place of a widened value is what stood there, widened. -/
theorem at?_coerce (store : SqlType) (value : Value) (place : List Nat) :
    (value.coerce store).at? place = (value.at? place).map (coerce store) := by
  induction value using array_induction generalizing place with
  | single value single =>
      cases place with
      | nil => rfl
      | cons i place =>
          have still : (value.coerce store).isArray = false := by rw [isArray_coerce, single]
          rw [at?_of_single single, at?_of_single still]
          rfl
  | array items ih =>
      cases place with
      | nil => rfl
      | cons i place =>
          rw [coerce_array, at?, at?, List.getElem?_map]
          cases found : items[i]? with
          | none => rfl
          | some item => exact ih item (List.mem_of_getElem? found) place

/-- A widened value has the places of the value.  What stands at each of them is an array of as
many items, or what stood there, or for an integer a wider integer with the same number.
Widening twice is widening once. -/
theorem kept_of_coerce (store : SqlType) (value : Value) :
    (∀ place, Option.Rel (Kept store) (value.at? place) ((value.coerce store).at? place)) ∧
      (value.coerce store).coerce store = value.coerce store := by
  refine ⟨fun place => ?_, coerce_coerce store value⟩
  rw [at?_coerce]
  cases value.at? place with
  | none => exact .none
  | some found => exact .some (kept_coerce store found)

example : (array [array [tinyInt (-1), null], text "a", int 70000]).coerce .integer
    = .array [.array [.int (-1), .null], .text "a", .int 70000] := by rfl

end Value

end DataMapper
