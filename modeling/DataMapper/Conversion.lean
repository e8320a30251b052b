import DataMapper.Error
import DataMapper.Text.Shown
import DataMapper.Value

/-!
# Conversions

A `Converter` turns the values it accepts into store values, and store values
it accepts for a target type back.  `Conversions` is a list of converters, those
of the user before those of the store, with the names of the custom types that
count as simple.

`Conversions.writeValue` converts a value on its way out.  The NULL stays.  An
array is converted item by item.  Any other value goes through the first
converter that accepts it, once, and where none does, a variant becomes the text
of its name and everything else stays.

`Conversions.readValue` converts a value on its way in, towards a type.  The
NULL stays, an array read towards an array type is read item by item, and
anything else goes through the first converter that accepts it with the type.
-/

namespace DataMapper

/-! ## Converters -/

/-- A conversion between the values of properties and those of a store. -/
structure Converter where
  name : String
  /-- Whether a value on its way out is accepted. -/
  canWrite : Value → Bool := fun _ => false
  /-- The store value of an accepted value. -/
  write : Value → Except Error Value := .ok
  /-- Whether a value on its way in is accepted for a type. -/
  canRead : Value → SqlType → Bool := fun _ _ => false
  /-- The property value of an accepted value. -/
  read : Value → SqlType → Except Error Value := fun value _ => .ok value

namespace Converter

/-- Writes the variants of one enumeration through a function of their names. -/
def ofEnumeration (typeName : String) (store : String → Except Error Value) : Converter where
  name := typeName
  canWrite
    | .enumeration type _ => type == typeName
    | _ => false
  write
    | .enumeration _ variant => store variant
    | value => .ok value

/-- Converts by tables.  The first row whose value, and on the way in whose type,
is equal gives the result, and a value without a row is not accepted. -/
def ofTables (name : String) (writes : List (Value × Except Error Value))
    (reads : List (Value × SqlType × Except Error Value)) : Converter where
  name := name
  canWrite value := writes.any fun row => row.1.same value
  write value := ((writes.find? fun row => row.1.same value).map (·.2)).getD (.ok value)
  canRead value type := reads.any fun row => row.1.same value && row.2.1 == type
  read value type :=
    ((reads.find? fun row => row.1.same value && row.2.1 == type).map (·.2.2)).getD (.ok value)

/-- Stores truth values as 8-bit integers, and reads a truth value from an
integer of up to 32 bits. -/
def booleanAsTinyInt : Converter where
  name := "boolean-as-tinyint"
  canWrite
    | .bool _ => true
    | _ => false
  write
    | .bool b => .ok (.tinyInt (if b then 1 else 0))
    | value => .ok value
  canRead value type :=
    type == .boolean &&
      match value with
      | .tinyInt _ | .smallInt _ | .int _ => true
      | _ => false
  read value _ :=
    match value.asBool? with
    | some b => .ok (.bool b)
    | none => .error (.conversion "BOOLEAN" value.typeName none)

/-- A converter as a text that tells it from others. -/
def description (c : Converter) : String :=
  "Converter \x7b name: " ++ Text.shown c.name ++ " \x7d"

end Converter

/-! ## Simple types -/

/-- The names of the custom types that a column holds without a mapping of
their own.  Every other type is simple, and an array is when its element type is. -/
structure SimpleTypes where
  names : List String
  deriving DecidableEq, Repr

def SimpleTypes.holds (simple : SimpleTypes) (type : SqlType) : Bool :=
  match type.element with
  | .custom name => simple.names.contains name
  | _ => true

/-! ## Registries -/

/-- The converters in order of precedence, and the simple types. -/
structure Conversions where
  converters : List Converter
  simple : SimpleTypes

namespace Conversions

/-- A registry of a user's converters and then those of a store. -/
def ofLists (user store : List Converter) (simple : SimpleTypes) : Conversions :=
  ⟨user ++ store, simple⟩

def writer? (c : Conversions) (value : Value) : Option Converter :=
  c.converters.find? fun converter => converter.canWrite value

def reader? (c : Conversions) (value : Value) (type : SqlType) : Option Converter :=
  c.converters.find? fun converter => converter.canRead value type

/-- Whether a converter accepts a value on its way out. -/
def hasWriter (c : Conversions) (value : Value) : Bool :=
  c.converters.any fun converter => converter.canWrite value

/-- A value that is neither the NULL nor an array, written. -/
def writeLeaf (c : Conversions) (value : Value) : Except Error Value :=
  match c.writer? value with
  | some converter => converter.write value
  | none =>
      match value with
      | .enumeration _ variant => .ok (.text variant)
      | value => .ok value

/-- A value that is not converted as an array, read towards a type. -/
def readLeaf (c : Conversions) (value : Value) (type : SqlType) : Except Error Value :=
  match c.reader? value type with
  | some converter => converter.read value type
  | none => .ok value

mutual

def writeValue (c : Conversions) : Value → Except Error Value
  | .null => .ok .null
  | .array items => (c.writeItems items).map .array
  | value => c.writeLeaf value

/-- The store values of the items of an array.  The first failure fails them all. -/
def writeItems (c : Conversions) : List Value → Except Error (List Value)
  | [] => .ok []
  | item :: rest => do
      let item ← c.writeValue item
      let rest ← c.writeItems rest
      .ok (item :: rest)

end

mutual

/-- The property value of a store value, towards a type. -/
def readValue (c : Conversions) : Value → SqlType → Except Error Value
  | .null, _ => .ok .null
  | .array items, type =>
      match type with
      | .array inner => (c.readItems items inner).map .array
      | type => c.readLeaf (.array items) type
  | value, type => c.readLeaf value type

/-- The property values of the items of an array. -/
def readItems (c : Conversions) : List Value → SqlType → Except Error (List Value)
  | [], _ => .ok []
  | item :: rest, type => do
      let item ← c.readValue item type
      let rest ← c.readItems rest type
      .ok (item :: rest)

end

/-! ## Lemmas -/

/-- Items are written one by one. -/
theorem writeItems_eq (c : Conversions) (items : List Value) :
    c.writeItems items = items.mapM c.writeValue := by
  induction items with
  | nil => rfl
  | cons item rest ih => simp only [writeItems, List.mapM_cons, ih]; rfl

end Conversions

end DataMapper
