import DataMapper.Error
import DataMapper.Value
import DataMapper.Json.Written

/-!
# The types of fields

A field of an entity holds data of a `Shape`: a scalar, a byte string, a
document, or a list of data of a shape.  A `FieldType` is a shape together with
whether the field may be absent.  `Shape.Carrier` and `FieldType.Carrier` are
the data themselves.

Types of data are open.  A `Codec` says how data of any type lie in a column: by
the type of the column, whether it can be NULL, and how the data are written and
read.  `FieldType.codec` is that of a field type.  A type of a user's own has
whatever codec it gives itself, and nothing ties its reading to its writing.

`Shape.write` gives the value of some data, `Shape.read` the data of a value.
Reading is wider than writing.

* An integer shape reads narrower integers and truth values.  The 32-bit shape
  reads a 64-bit integer that fits.
* A single reads a double, by rounding.  A double reads every number and a
  decimal that is a literal.
* A text reads a decimal and the name of a variant.  A byte string reads a text.
* An identifier of 16 bytes reads a byte string of that length.
* A document reads a text that holds one.
* A list reads an array, item by item, and fails with its first item that fails.
* A field that may be absent reads the NULL as absent.
-/

namespace DataMapper

/-! ## Shapes -/

/-- The shape of the data in a field. -/
inductive Shape where
  | bool
  | int8
  | int16
  | int32
  | int64
  | single
  | double
  | text
  | bytes
  | uuid
  | json
  | list (inner : Shape)
  deriving DecidableEq, Repr

namespace Shape

/-- The data of a shape. -/
def Carrier : Shape → Type
  | bool => Bool
  | int8 => Int8
  | int16 => Int16
  | int32 => Int32
  | int64 => Int64
  | single => Binary32
  | double => Binary64
  | text => String
  | bytes => List UInt8
  | uuid => Vector UInt8 16
  | json => Json
  | list inner => List inner.Carrier

def sqlType : Shape → SqlType
  | bool => .boolean
  | int8 => .tinyInt
  | int16 => .smallInt
  | int32 => .integer
  | int64 => .bigInt
  | single => .real
  | double => .double
  | text => .text
  | bytes => .blob
  | uuid => .uuid
  | json => .json
  | list inner => .array inner.sqlType

/-- The name of a shape inside the name of a list, as messages give it. -/
def itemName : Shape → String
  | bool => "BOOLEAN"
  | int8 => "TINYINT"
  | int16 => "SMALLINT"
  | int32 => "INTEGER"
  | int64 => "BIGINT"
  | single => "REAL"
  | double => "DOUBLE"
  | text => "TEXT"
  | bytes => "BLOB"
  | uuid => "UUID"
  | json => "JSON"
  | list inner => inner.itemName ++ "[]"

/-- The name of a shape, as messages give it. -/
def expectedName : Shape → String
  | bool => "bool"
  | int8 => "i8"
  | int16 => "i16"
  | int32 => "i32"
  | int64 => "i64"
  | single => "f32"
  | double => "f64"
  | text => "String"
  | bytes => "Vec<u8>"
  | uuid => "UUID"
  | json => "JSON"
  | list inner => inner.itemName ++ "[]"

def mismatch (shape : Shape) (value : Value) : Error :=
  .conversion shape.expectedName value.typeName none

/-- The value of some data. -/
def write : (shape : Shape) → shape.Carrier → Value
  | bool, b => .bool b
  | int8, n => .tinyInt n
  | int16, n => .smallInt n
  | int32, n => .int n
  | int64, n => .bigInt n
  | single, x => .float x
  | double, x => .double x
  | text, s => .text s
  | bytes, data => .bytes data
  | uuid, data => .uuid data
  | json, doc => .json doc
  | list inner, items => .array (List.map inner.write items)

/-! ## Reading -/

/-- What an optional reading gives, or the mismatch. -/
def orMismatch {α : Type} (shape : Shape) (value : Value) : Option α → Except Error α
  | some a => .ok a
  | none => .error (shape.mismatch value)

/-- The 8-bit integer of a value. -/
def int8? : Value → Option Int8
  | .tinyInt n => some n
  | .bool b => some (if b then 1 else 0)
  | _ => none

/-- The 16-bit integer of a value. -/
def int16? : Value → Option Int16
  | .tinyInt n => some n.toInt16
  | .smallInt n => some n
  | .bool b => some (if b then 1 else 0)
  | _ => none

/-- The 32-bit integer of a value.  A 64-bit integer has to fit. -/
def int32? : Value → Option Int32
  | .tinyInt n => some n.toInt32
  | .smallInt n => some n.toInt32
  | .int n => some n
  | .bigInt n =>
      if Int32.minValue.toInt ≤ n.toInt ∧ n.toInt ≤ Int32.maxValue.toInt then some n.toInt32
      else none
  | .bool b => some (if b then 1 else 0)
  | _ => none

def single? : Value → Option Binary32
  | .float x => some x
  | .double x => some x.narrow
  | _ => none

/-- The 16 bytes of a value. -/
def uuid? : Value → Option (Vector UInt8 16)
  | .uuid data => some data
  | .bytes data => if h : data.toArray.size = 16 then some ⟨data.toArray, h⟩ else none
  | _ => none

/-- The document of a value. -/
def readJson : Value → Except Error Json
  | .json doc => .ok doc
  | .text s =>
      match Json.parse? s with
      | some doc => .ok doc
      | none => .error (.conversion "JSON" "unparseable text" none)
  | value => .error (mismatch .json value)

/-- The data of a value. -/
def read : (shape : Shape) → Value → Except Error shape.Carrier
  | bool, value => orMismatch .bool value value.asBool?
  | int8, value => orMismatch .int8 value (int8? value)
  | int16, value => orMismatch .int16 value (int16? value)
  | int32, value => orMismatch .int32 value (int32? value)
  | int64, value => orMismatch .int64 value value.asInt64?
  | single, value => orMismatch .single value (single? value)
  | double, value => orMismatch .double value value.asDouble?
  | text, value => orMismatch .text value value.asText?
  | bytes, value => orMismatch .bytes value value.asBytes?
  | uuid, value => orMismatch .uuid value (uuid? value)
  | json, value => readJson value
  | list inner, value =>
      match value with
      | .array items => items.mapM (read inner)
      | value => .error (mismatch (.list inner) value)

end Shape

/-! ## Field types -/

/-- A shape, and whether a field of it may be absent. -/
structure FieldType where
  shape : Shape
  /-- Whether the data may be absent. -/
  nullable : Bool
  deriving DecidableEq, Repr

namespace FieldType

/-- The data of a field type. -/
def Carrier : FieldType → Type
  | ⟨shape, false⟩ => shape.Carrier
  | ⟨shape, true⟩ => Option shape.Carrier

def sqlType (type : FieldType) : SqlType := type.shape.sqlType

/-- The value of some data, absent data giving the NULL. -/
def write : (type : FieldType) → type.Carrier → Value
  | ⟨shape, false⟩, data => shape.write data
  | ⟨shape, true⟩, data =>
      match data with
      | none => .null
      | some data => shape.write data

/-- The data of a value. -/
def read : (type : FieldType) → Value → Except Error type.Carrier
  | ⟨shape, false⟩, value => shape.read value
  | ⟨shape, true⟩, value =>
      match value with
      | .null => .ok none
      | value => (shape.read value).map some

end FieldType

/-! ## Codecs -/

/-- How data of one type lie in a column. -/
structure Codec where
  /-- The data. -/
  Carrier : Type
  sqlType : SqlType
  /-- Whether the column can be NULL. -/
  nullable : Bool
  /-- The value of some data. -/
  write : Carrier → Value
  /-- The data of a value. -/
  read : Value → Except Error Carrier

namespace Codec

/-- The value that a field holds after a value is stored in it. -/
def normalise (c : Codec) (value : Value) : Except Error Value := (c.read value).map c.write

/-- Values that are kept as they are. -/
def verbatim (sqlType : SqlType) (nullable : Bool) : Codec where
  Carrier := Value
  sqlType := sqlType
  nullable := nullable
  write := id
  read := .ok

end Codec

/-- How the data of a field type lie in a column. -/
def FieldType.codec (type : FieldType) : Codec where
  Carrier := type.Carrier
  sqlType := type.sqlType
  nullable := type.nullable
  write := type.write
  read := type.read

/-- The codecs of fields of field types. -/
abbrev FieldType.codecs (typeOf : String → FieldType) (name : String) : Codec := (typeOf name).codec

/-! ## Checks -/

example : ((FieldType.codec ⟨.int64, false⟩).normalise (.tinyInt (-1))).toOption.isSome := by
  decide
example : ((FieldType.codec ⟨.list .int32, false⟩).normalise (.array [.null])).toOption.isNone := by
  decide

end DataMapper
