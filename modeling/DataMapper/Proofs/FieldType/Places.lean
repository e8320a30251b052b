import DataMapper.Proofs.Conversion
import Mathlib.Data.Set.List

/-!
# Data by place

A place in nested arrays is a list of positions, that in the outermost array first.  `Value.at?`
is the value at a place, and a value is full when the NULL is at none (`Value.IsFull`).

The values of the data of a field type are the NULL, where the data may be absent, and the full
values of its column type.  Reading takes each of them back to its data
(`FieldType.read_written`).

Reading is wider than that, but integers are read as the numbers that they are.  `Content` is
what is at a place of integers in arrays or in lists: a number or a length.  Data that were read
from a value have its content at every place, and the NULL is never read as a number
(`FieldType.read_integers`).  What is taken is said by the bits of the two sides
(`Shape.Takes`).  Only integers of 64 bits are ever narrowed, and those only when they are in the
range of 32.
-/

namespace DataMapper

/-! ## Places in a value -/

namespace Value

variable {value : Value} {items : List Value}

/-- The value at a place in nested arrays. -/
def at? : Value → List Nat → Option Value
  | value, [] => some value
  | array items, i :: place => items[i]?.bind fun item => item.at? place
  | _, _ :: _ => none

/-- Nothing is inside of a value that is no array. -/
theorem at?_of_single (single : value.isArray = false) (i : Nat) (place : List Nat) :
    value.at? (i :: place) = none := by
  cases value <;> first | rfl | cases single

/-- Whether the NULL is at no place of a value. -/
def IsFull (value : Value) : Prop := ∀ place, value.at? place ≠ some .null

theorem isFull_of_single (single : value.isArray = false) (filled : value ≠ .null) :
    value.IsFull := by
  intro place null
  cases place with
  | nil => exact filled (Option.some.inj null)
  | cons i place =>
      rw [at?_of_single single] at null
      cases null

/-- An array is full when its items are. -/
theorem isFull_array : (array items).IsFull ↔ ∀ item ∈ items, item.IsFull := by
  constructor
  · intro full item mem place null
    obtain ⟨i, found⟩ := List.mem_iff_getElem?.mp mem
    refine full (i :: place) ?_
    rw [at?, found]
    exact null
  · intro each place null
    cases place with
    | nil => cases null
    | cons i place =>
        obtain ⟨item, found, null⟩ := Option.bind_eq_some_iff.mp null
        exact each item (List.mem_of_getElem? found) place null

end Value

/-! ## The values of data -/

namespace Shape

variable {shape : Shape} {value : Value}

theorem isFull_write (shape : Shape) (x : shape.Carrier) : (shape.write x).IsFull := by
  induction shape with
  | list inner ih =>
      change List inner.Carrier at x
      rw [write_list, Value.isFull_array, List.forall_mem_map]
      exact fun item _ => ih item
  | _ => exact Value.isFull_of_single rfl nofun

/-- A full value of the column type of a shape is the value of some data. -/
theorem exists_write (typed : value.HasType shape.sqlType) (full : value.IsFull) :
    ∃ x, shape.write x = value := by
  induction shape generalizing value with
  | list inner ih =>
      cases typed with
      | null => exact absurd rfl (full [])
      | @array items _ each =>
          rw [Value.isFull_array] at full
          have written : items ∈ Set.range (List.map inner.write) := by
            rw [Set.range_list_map]
            exact fun item mem => ih (each item mem) (full item mem)
          obtain ⟨xs, rfl⟩ := written
          exact ⟨xs, rfl⟩
      | scalar own => cases value <;> cases own
  | _ =>
      cases typed with
      | null => exact absurd rfl (full [])
      | scalar own =>
          cases value <;> cases own
          exact ⟨_, rfl⟩

end Shape

namespace FieldType

/-- The values that are written for the data of a field. -/
theorem exists_write_iff (type : FieldType) {value : Value} :
    (∃ x, type.write x = value) ↔
      value = .null ∧ type.nullable = true ∨ value.HasType type.sqlType ∧ value.IsFull := by
  obtain ⟨shape, nullable⟩ := type
  constructor
  · rintro ⟨x, rfl⟩
    cases nullable with
    | false => exact .inr ⟨shape.hasType_write x, shape.isFull_write x⟩
    | true =>
        change Option shape.Carrier at x
        cases x with
        | none => exact .inl ⟨rfl, rfl⟩
        | some y => exact .inr ⟨shape.hasType_write y, shape.isFull_write y⟩
  · rintro (⟨rfl, optional⟩ | ⟨typed, full⟩)
    · cases optional
      exact ⟨none, rfl⟩
    · obtain ⟨y, rfl⟩ := Shape.exists_write typed full
      cases nullable with
      | false => exact ⟨y, rfl⟩
      | true => exact ⟨some y, rfl⟩

/-- What is written for the data of a field is read back, whatever the type of the field, and
the values that are written are the NULL, where data may be absent, and the full values of the
column type. -/
theorem read_written (type : FieldType) :
    (∀ x : type.Carrier, type.read (type.write x) = .ok x) ∧
      ∀ value, (∃ x, type.write x = value) ↔
        value = .null ∧ type.nullable = true ∨ value.HasType type.sqlType ∧ value.IsFull :=
  ⟨type.read_write, fun _ => type.exists_write_iff⟩

end FieldType

/-! ## Numbers at places -/

/-- Related lists have related items at each position. -/
theorem rel_getElem? {α β : Type} {R : α → β → Prop} {as : List α} {bs : List β}
    (all : List.Forall₂ R as bs) (i : Nat) : Option.Rel R as[i]? bs[i]? := by
  induction all generalizing i with
  | nil => exact .none
  | cons here _ ih =>
      cases i with
      | zero => exact .some here
      | succ i => exact ih i

/-- What integers have at a place: a number, or a list of a length. -/
inductive Content where
  | number (n : Int)
  | list (length : Nat)
  deriving DecidableEq, Repr

namespace Value

/-- The number of an integer or a truth value, and the length of an array. -/
def content? : Value → Option Content
  | array items => some (.list items.length)
  | value => value.toInt?.map .number

/-- What is at a place of a value. -/
def contentAt? (value : Value) (place : List Nat) : Option Content :=
  (value.at? place).bind content?

end Value

namespace Shape

/-- The number that an integer is. -/
def toInt? : (shape : Shape) → shape.Carrier → Option Int
  | int8, n => some n.toInt
  | int16, n => some n.toInt
  | int32, n => some n.toInt
  | int64, n => some n.toInt
  | _, _ => none

/-- The data in a list. -/
def items {inner : Shape} (data : (list inner).Carrier) : List inner.Carrier := data

/-- What is at a place of data. -/
def contentAt? : (shape : Shape) → shape.Carrier → List Nat → Option Content
  | list _, data, [] => some (.list (items data).length)
  | list inner, data, i :: place =>
      (items data)[i]?.bind fun item => inner.contentAt? item place
  | shape, x, [] => (shape.toInt? x).map .number
  | _, _, _ :: _ => none

/-! ## Reading integers -/

variable {shape : Shape} {value : Value}

theorem orMismatch_eq_ok {α : Type} {found : Option α} {a : α} :
    orMismatch shape value found = .ok a ↔ found = some a := by
  cases found with
  | none => exact ⟨nofun, nofun⟩
  | some b => rw [orMismatch, Except.ok.injEq, Option.some.injEq]

theorem exists_orMismatch_eq_ok {α : Type} {found : Option α} :
    (∃ a, orMismatch shape value found = .ok a) ↔ found.isSome = true := by
  simp only [orMismatch_eq_ok, Option.isSome_iff_exists]

/-- A list is read from an array, item by item. -/
theorem read_list_eq_ok {inner : Shape} {data : List inner.Carrier} :
    (list inner).read value = .ok data ↔
      ∃ values, value = .array values ∧
        List.Forall₂ (fun item x => inner.read item = .ok x) values data := by
  constructor
  · intro h
    cases value with
    | array values => exact ⟨values, rfl, Outcome.mapM_eq_ok_iff_forall₂.mp h⟩
    | _ => cases h
  · rintro ⟨values, rfl, all⟩
    exact Outcome.mapM_eq_ok_iff_forall₂.mpr all

/-- A list is read from an array of items that are read. -/
theorem exists_read_list_iff {inner : Shape} :
    (∃ data, (list inner).read value = .ok data) ↔
      ∃ values, value = .array values ∧ ∀ item ∈ values, ∃ x, inner.read item = .ok x := by
  constructor
  · rintro ⟨data, h⟩
    obtain ⟨values, rfl, -⟩ := read_list_eq_ok.mp h
    exact ⟨values, rfl, Outcome.exists_mapM_eq_ok_iff.mp ⟨data, h⟩⟩
  · rintro ⟨values, rfl, each⟩
    exact Outcome.exists_mapM_eq_ok_iff.mpr each

/-- No data are read from the NULL. -/
theorem read_null_ne_ok (x : shape.Carrier) : shape.read .null ≠ .ok x := by
  cases shape <;> nofun

/-- Only lists are read from arrays. -/
theorem isArray_eq_false_of_read (single : shape.sqlType.isArray = false) {x : shape.Carrier}
    (h : shape.read value = .ok x) : value.isArray = false := by
  cases value with
  | array items => cases shape <;> first | cases h | cases single
  | _ => rfl

/-- A value from which data are read is full. -/
theorem isFull_of_read {x : shape.Carrier} (h : shape.read value = .ok x) : value.IsFull := by
  induction shape generalizing value with
  | list inner ih =>
      obtain ⟨values, rfl, each⟩ := exists_read_list_iff.mp ⟨x, h⟩
      rw [Value.isFull_array]
      intro item mem
      obtain ⟨y, hy⟩ := each item mem
      exact ih hy
  | _ =>
      refine Value.isFull_of_single (isArray_eq_false_of_read rfl h) ?_
      rintro rfl
      exact read_null_ne_ok x h

/-- An integer of 64 bits in the range of 32 bits is the same number with 32 bits. -/
theorem toInt_toInt32_of_range {n : Int64}
    (range : Int32.minValue.toInt ≤ n.toInt ∧ n.toInt ≤ Int32.maxValue.toInt) :
    n.toInt32.toInt = n.toInt := by
  have low : Int32.minValue.toInt = -2 ^ 31 := by decide
  have high : Int32.maxValue.toInt = 2 ^ 31 - 1 := by decide
  rw [Int64.toInt_toInt32, Int.bmod_eq_of_le] <;> omega

/-- An integer is read as the number that it is. -/
theorem toInt?_of_read (integer : shape.sqlType.bits?.isSome) {x : shape.Carrier}
    (h : shape.read value = .ok x) : value.toInt? = shape.toInt? x := by
  cases shape with
  | int8 =>
      replace h := orMismatch_eq_ok.mp h
      cases value with
      | bool b => cases h; cases b <;> rfl
      | _ => cases h <;> rfl
  | int16 =>
      replace h := orMismatch_eq_ok.mp h
      cases value with
      | bool b => cases h; cases b <;> rfl
      | tinyInt n => cases h; exact congrArg some n.toInt_toInt16.symm
      | _ => cases h <;> rfl
  | int32 =>
      replace h := orMismatch_eq_ok.mp h
      cases value with
      | bool b => cases h; cases b <;> rfl
      | tinyInt n => cases h; exact congrArg some n.toInt_toInt32.symm
      | smallInt n => cases h; exact congrArg some n.toInt_toInt32.symm
      | bigInt n =>
          rw [int32?] at h
          split at h
          next range => cases h; exact congrArg some (toInt_toInt32_of_range range).symm
          next => cases h
      | _ => cases h <;> rfl
  | int64 =>
      replace h := orMismatch_eq_ok.mp h
      cases value with
      | bool b => cases h; cases b <;> rfl
      | tinyInt n => cases h; exact congrArg some n.toInt_toInt64.symm
      | smallInt n => cases h; exact congrArg some n.toInt_toInt64.symm
      | int n => cases h; exact congrArg some n.toInt_toInt64.symm
      | _ => cases h <;> rfl
  | _ => cases integer

/-- What is at a place of integers that are no lists is at the place of their value. -/
theorem contentAt?_of_single (single : shape.sqlType.isArray = false)
    (integer : shape.sqlType.bits?.isSome) {x : shape.Carrier} (h : shape.read value = .ok x)
    (place : List Nat) : shape.contentAt? x place = value.contentAt? place := by
  have apart := isArray_eq_false_of_read single h
  cases place with
  | nil =>
      have here : value.contentAt? [] = value.toInt?.map .number := by
        cases value <;> first | rfl | cases apart
      rw [here, toInt?_of_read integer h]
      cases shape <;> first | rfl | cases single
  | cons i place =>
      rw [Value.contentAt?, Value.at?_of_single apart]
      cases shape <;> first | rfl | cases single

/-- What is read as integers has at every place what the value has there. -/
theorem contentAt?_of_read (integer : shape.element.sqlType.bits?.isSome) {x : shape.Carrier}
    (h : shape.read value = .ok x) (place : List Nat) :
    shape.contentAt? x place = value.contentAt? place := by
  induction shape generalizing value place with
  | list inner ih =>
      obtain ⟨values, rfl, all⟩ := read_list_eq_ok.mp h
      cases place with
      | nil => exact congrArg (fun length => some (Content.list length)) all.length_eq.symm
      | cons i place =>
          have related : Option.Rel (fun item y => inner.read item = .ok y) values[i]?
              (items x)[i]? := rel_getElem? all i
          rw [contentAt?, Value.contentAt?, Value.at?]
          generalize values[i]? = item at related ⊢
          generalize (items x)[i]? = y at related ⊢
          cases related with
          | none => rfl
          | some here => exact ih integer here place
  | _ => exact contentAt?_of_single rfl integer h place

/-! ## What is read as integers -/

/-- Whether a shape of integers takes a value that is no array: a truth value, an integer of at
most its bits, or one of 64 bits in the range of 32. -/
def TakesNumber (shape : Shape) (value : Value) : Prop :=
  (∃ b, value = .bool b) ∨ value.FitsInto shape.sqlType ∨
    shape = int32 ∧ ∃ n : Int64, value = .bigInt n ∧
      Int32.minValue.toInt ≤ n.toInt ∧ n.toInt ≤ Int32.maxValue.toInt

/-- Whether a shape of integers takes a value.  A list takes an array when it takes each item. -/
def Takes : Shape → Value → Prop
  | list inner, value => ∃ values, value = .array values ∧ ∀ item ∈ values, inner.Takes item
  | shape, value => shape.TakesNumber value

/-- A number is read exactly when it is taken. -/
theorem exists_read_iff_takesNumber (integer : shape.sqlType.bits?.isSome) :
    (∃ x, shape.read value = .ok x) ↔ shape.TakesNumber value := by
  cases shape with
  | int8 =>
      refine (exists_orMismatch_eq_ok (α := Int8)).trans ?_
      cases value <;>
        simp [int8?, TakesNumber, Value.FitsInto, Value.scalarType?, sqlType, SqlType.bits?]
  | int16 =>
      refine (exists_orMismatch_eq_ok (α := Int16)).trans ?_
      cases value <;>
        simp [int16?, TakesNumber, Value.FitsInto, Value.scalarType?, sqlType, SqlType.bits?]
  | int32 =>
      refine (exists_orMismatch_eq_ok (α := Int32)).trans ?_
      cases value <;>
        simp [int32?, TakesNumber, Value.FitsInto, Value.scalarType?, sqlType, SqlType.bits?]
  | int64 =>
      refine (exists_orMismatch_eq_ok (α := Int64)).trans ?_
      cases value <;>
        simp [Value.asInt64?, TakesNumber, Value.FitsInto, Value.scalarType?, sqlType,
          SqlType.bits?]
  | _ => cases integer

/-- Integers are read exactly from the values that are taken. -/
theorem exists_read_iff_takes (integer : shape.element.sqlType.bits?.isSome) :
    (∃ x, shape.read value = .ok x) ↔ shape.Takes value := by
  induction shape generalizing value with
  | list inner ih =>
      rw [exists_read_list_iff, Takes]
      constructor
      · rintro ⟨values, rfl, each⟩
        exact ⟨values, rfl, fun item mem => (ih integer).mp (each item mem)⟩
      · rintro ⟨values, rfl, each⟩
        exact ⟨values, rfl, fun item mem => (ih integer).mpr (each item mem)⟩
  | _ => exact exists_read_iff_takesNumber integer

end Shape

namespace FieldType

variable {type : FieldType} {value : Value}

/-- The data that are present. -/
def data? : (type : FieldType) → type.Carrier → Option type.shape.Carrier
  | ⟨_, false⟩, x => some x
  | ⟨_, true⟩, x => x

/-- What is at a place of the data of a field, nothing when they are absent. -/
def contentAt? (type : FieldType) (x : type.Carrier) (place : List Nat) : Option Content :=
  (type.data? x).bind fun data => type.shape.contentAt? data place

/-- Whether a field of integers takes a value. -/
def Takes (type : FieldType) (value : Value) : Prop :=
  value = .null ∧ type.nullable = true ∨ type.shape.Takes value

/-- Absent data are read from the NULL, data that are present as their shape says. -/
theorem read_eq_ok {x : type.Carrier} (h : type.read value = .ok x) :
    value = .null ∧ type.nullable = true ∧ type.data? x = none ∨
      ∃ data, type.shape.read value = .ok data ∧ type.data? x = some data := by
  obtain ⟨shape, nullable⟩ := type
  cases nullable with
  | false => exact .inr ⟨x, h, rfl⟩
  | true =>
      by_cases absent : value = .null
      · subst absent
        cases h
        exact .inl ⟨rfl, rfl, rfl⟩
      · rw [read_of_ne_null absent] at h
        obtain ⟨data, hdata, rfl⟩ := Outcome.map_eq_ok.mp h
        exact .inr ⟨data, hdata, rfl⟩

/-- Data are read from the NULL, where they may be absent, and where their shape is read. -/
theorem exists_read_iff :
    (∃ x, type.read value = .ok x) ↔
      value = .null ∧ type.nullable = true ∨ ∃ data, type.shape.read value = .ok data := by
  constructor
  · rintro ⟨x, h⟩
    obtain ⟨null, optional, -⟩ | ⟨data, h, -⟩ := read_eq_ok h
    · exact .inl ⟨null, optional⟩
    · exact .inr ⟨data, h⟩
  · obtain ⟨shape, nullable⟩ := type
    rintro (⟨rfl, optional⟩ | ⟨data, h⟩)
    · cases optional
      exact ⟨none, rfl⟩
    · cases nullable with
      | false => exact ⟨data, h⟩
      | true =>
          refine ⟨some data, ?_⟩
          rw [read_of_ne_null, h]
          · rfl
          · rintro rfl
            exact Shape.read_null_ne_ok data h

/-- Integers are read exactly from the values that are taken.  What was read has at every place
what the value has there, and the NULL is read only as data that are absent. -/
theorem read_integers (type : FieldType) (integer : type.shape.element.sqlType.bits?.isSome)
    (value : Value) :
    ((∃ x, type.read value = .ok x) ↔ type.Takes value) ∧
      ∀ x, type.read value = .ok x →
        (∀ place, type.contentAt? x place = value.contentAt? place) ∧
        ∀ place, value.at? place = some .null →
          place = [] ∧ type.nullable = true ∧ type.data? x = none := by
  refine ⟨?_, fun x h => ?_⟩
  · rw [exists_read_iff, Shape.exists_read_iff_takes integer, Takes]
  obtain ⟨rfl, optional, absent⟩ | ⟨data, h, present⟩ := read_eq_ok h
  · refine ⟨fun place => ?_, fun place null => ?_⟩
    · rw [contentAt?, absent]
      cases place <;> rfl
    · cases place with
      | nil => exact ⟨rfl, optional, absent⟩
      | cons i place => cases null
  · refine ⟨fun place => ?_, fun place null => ?_⟩
    · rw [contentAt?, present]
      exact Shape.contentAt?_of_read integer h place
    · exact absurd null (Shape.isFull_of_read h place)

/-- A grid of integers is read, a truth value in it as a number. -/
theorem read_integers_grid :
    (Shape.list (.list .int32)).element.sqlType.bits?.isSome = true ∧
      ∃ x, read ⟨.list (.list .int32), true⟩
          (.array [.array [.tinyInt (-1), .bigInt 7, .bool true], .array []]) = .ok x ∧
        contentAt? ⟨.list (.list .int32), true⟩ x [0, 2] = some (.number 1) ∧
        contentAt? ⟨.list (.list .int32), true⟩ x [1] = some (.list 0) := by
  have integer : (Shape.list (.list .int32)).element.sqlType.bits?.isSome = true := rfl
  have read : read ⟨.list (.list .int32), true⟩
      (.array [.array [.tinyInt (-1), .bigInt 7, .bool true], .array []]) =
        .ok (some ([[-1, 7, 1], []] : List (List Int32))) := rfl
  have same := ((read_integers ⟨.list (.list .int32), true⟩ integer _).2 _ read).1
  exact ⟨integer, _, read, same [0, 2], same [1]⟩

end FieldType

end DataMapper
