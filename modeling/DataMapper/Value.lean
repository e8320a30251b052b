import DataMapper.Json
import DataMapper.SqlType
import DataMapper.Number.Literal

/-!
# Values

A `Value` is what travels between entities, rows and a store: the NULL, a
scalar of a SQL type, an array of values, or a variant of an enumeration that no
converter has turned into a store value yet.

`Value.sqlType?` is the type a value binds as.  The NULL and a variant have
none.  An array has the type of its leaves, wrapped in as many dimensions as it
is deep, when its leaves agree.

The leaves of a value are what remains when the arrays are opened and the NULLs
dropped: `Value.leaves` lists them.  They carry the rules on arrays.

* `Value.elementType?` of an array is the type of its leaves, when there is a
  leaf and each leaf has that type.  A `TypeSearch` goes through the leaves and
  remembers the first type and whether a later leaf was of another one.
* `Value.depth` follows the first item of each array.
* `Value.isLeafless` holds of an array of nothing but such arrays.
-/

namespace DataMapper

/-- A value of a store. -/
inductive Value where
  | null
  | bool (b : Bool)
  | tinyInt (n : Int8)
  | smallInt (n : Int16)
  | int (n : Int32)
  | bigInt (n : Int64)
  | float (x : Binary32)
  | double (x : Binary64)
  | decimal (digits : String)
  | text (s : String)
  | bytes (data : List UInt8)
  /-- A day, counted from the epoch. -/
  | date (days : Int32)
  /-- A time of day in microseconds. -/
  | time (micros : Int64)
  /-- A point in time without a zone, in microseconds from the epoch. -/
  | timestamp (micros : Int64)
  /-- A point in time with a zone, in microseconds from the epoch. -/
  | timestampTz (micros : Int64)
  | uuid (data : Vector UInt8 16)
  | json (doc : Json)
  | array (items : List Value)
  /-- A variant of an enumeration, by the names of both. -/
  | enumeration (typeName variant : String)
  deriving Repr, Inhabited

namespace Value

/-! ## Kinds -/

def isNull : Value → Bool
  | null => true
  | _ => false

def isArray : Value → Bool
  | array _ => true
  | _ => false

def isBytes : Value → Bool
  | bytes _ => true
  | _ => false

/-- The name of a value's kind, as messages give it. -/
def typeName : Value → String
  | null => "NULL"
  | bool _ => "BOOLEAN"
  | tinyInt _ => "TINYINT"
  | smallInt _ => "SMALLINT"
  | int _ => "INTEGER"
  | bigInt _ => "BIGINT"
  | float _ => "REAL"
  | double _ => "DOUBLE"
  | decimal _ => "DECIMAL"
  | text _ => "TEXT"
  | bytes _ => "BLOB"
  | date _ => "DATE"
  | time _ => "TIME"
  | timestamp _ => "TIMESTAMP"
  | timestampTz _ => "TIMESTAMPTZ"
  | uuid _ => "UUID"
  | json _ => "JSON"
  | array _ => "ARRAY"
  | enumeration _ _ => "ENUM"

/-- The type of a scalar.  The NULL, an array and a variant have none. -/
def scalarType? : Value → Option SqlType
  | null | array _ | enumeration _ _ => none
  | bool _ => some .boolean
  | tinyInt _ => some .tinyInt
  | smallInt _ => some .smallInt
  | int _ => some .integer
  | bigInt _ => some .bigInt
  | float _ => some .real
  | double _ => some .double
  | decimal _ => some .decimal
  | text _ => some .text
  | bytes _ => some .blob
  | date _ => some .date
  | time _ => some .time
  | timestamp _ => some .timestamp
  | timestampTz _ => some .timestampTz
  | uuid _ => some .uuid
  | json _ => some .json

/-! ## Arrays -/

mutual

/-- The values below all arrays, in order, without the NULLs. -/
def leaves : Value → List Value
  | null => []
  | array items => leavesOf items
  | value => [value]

/-- The leaves of the items of an array. -/
def leavesOf : List Value → List Value
  | [] => []
  | item :: rest => item.leaves ++ leavesOf rest

end

/-- The number of arrays around the first value of the first array, and so on. -/
def depth : Value → Nat
  | array [] => 1
  | array (first :: _) => first.depth + 1
  | _ => 0

mutual

/-- Whether a value is an array that holds nothing but such arrays. -/
def isLeafless : Value → Bool
  | array items => areLeafless items
  | _ => false

/-- Whether every item of an array is leafless. -/
def areLeafless : List Value → Bool
  | [] => true
  | item :: rest => item.isLeafless && areLeafless rest

end

end Value

/-! ## The type of an array -/

/-- What a search through the leaves of an array has come to. -/
structure TypeSearch where
  /-- The type of the first leaf that has one. -/
  found : Option SqlType := none
  /-- Whether a leaf has no type, or another one. -/
  mixed : Bool := false
  deriving DecidableEq, Repr

namespace TypeSearch

/-- Goes on with the type of one more leaf. -/
def note (seen : TypeSearch) : Option SqlType → TypeSearch
  | none => { seen with mixed := true }
  | some type =>
      match seen.found with
      | none => { seen with found := some type }
      | some first => if first = type then seen else { seen with mixed := true }

/-- The type that all leaves have, when there is one. -/
def common? (seen : TypeSearch) : Option SqlType := if seen.mixed then none else seen.found

end TypeSearch

namespace Value

mutual

/-- Searches the leaves of a value for their type. -/
def searchType : Value → TypeSearch → TypeSearch
  | array items, seen => searchTypes items seen
  | null, seen => seen
  | leaf, seen => seen.note leaf.scalarType?

/-- Searches the leaves of the items of an array, one item after the other. -/
def searchTypes : List Value → TypeSearch → TypeSearch
  | [], seen => seen
  | item :: rest, seen => searchTypes rest (item.searchType seen)

end

/-- The type that all leaves of a value have. -/
def elementType? (value : Value) : Option SqlType :=
  match value with
  | array items => ((array items).searchType {}).common?
  | value => value.scalarType?

/-- The type that a value binds as. -/
def sqlType? (value : Value) : Option SqlType :=
  match value with
  | array items => (array items).elementType?.map fun type => type.wrap (array items).depth
  | value => value.scalarType?

/-! ## Reading a scalar -/

/-- The integer that a value holds, a truth value counting as zero or one. -/
def toInt? : Value → Option Int
  | bool b => some (if b then 1 else 0)
  | tinyInt n => some n.toInt
  | smallInt n => some n.toInt
  | int n => some n.toInt
  | bigInt n => some n.toInt
  | _ => none

/-- The truth of a truth value or an integer, zero being false. -/
def asBool? : Value → Option Bool
  | bool b => some b
  | tinyInt n => some (n != 0)
  | smallInt n => some (n != 0)
  | int n => some (n != 0)
  | bigInt n => some (n != 0)
  | _ => none

/-- The 64-bit integer of an integer or a truth value. -/
def asInt64? : Value → Option Int64
  | bool b => some (if b then 1 else 0)
  | tinyInt n => some n.toInt64
  | smallInt n => some n.toInt64
  | int n => some n.toInt64
  | bigInt n => some n
  | _ => none

/-- The double of a number, or of a decimal whose text is a literal. -/
def asDouble? : Value → Option Binary64
  | float x => some x.widen
  | double x => some x
  | tinyInt n => some (.ofInt n.toInt)
  | smallInt n => some (.ofInt n.toInt)
  | int n => some (.ofInt n.toInt)
  | bigInt n => some (.ofInt n.toInt)
  | decimal digits => Binary64.ofLiteral? digits
  | _ => none

/-- The text of a text, a decimal or a variant. -/
def asText? : Value → Option String
  | text s => some s
  | decimal digits => some digits
  | enumeration _ variant => some variant
  | _ => none

/-- The bytes of a byte string or of a text. -/
def asBytes? : Value → Option (List UInt8)
  | bytes data => some data
  | text s => some s.toUTF8.toList
  | _ => none

/-! ## Variants -/

/-- A path without the segments up to its last double colon. -/
def lastSegment : List Char → List Char → List Char
  | segment, [] => segment.reverse
  | _, ':' :: ':' :: rest => lastSegment [] rest
  | segment, c :: rest => lastSegment (c :: segment) rest

/-- The variant of an enumeration given by the path of its type.  Type arguments
and leading segments of the path are dropped. -/
def ofVariant (typePath variant : String) : Value :=
  let head := typePath.toList.takeWhile (· ≠ '<')
  enumeration (String.ofList (lastSegment [] head)) variant

/-! ## Equality of numbers -/

mutual

/-- Whether two values are equal when floating-point numbers compare as numbers. -/
def same : Value → Value → Bool
  | null, null => true
  | bool a, bool b => a == b
  | tinyInt a, tinyInt b => a == b
  | smallInt a, smallInt b => a == b
  | int a, int b => a == b
  | bigInt a, bigInt b => a == b
  | float a, float b => a.ieeeEq b
  | double a, double b => a.ieeeEq b
  | decimal a, decimal b => a == b
  | text a, text b => a == b
  | bytes a, bytes b => a == b
  | date a, date b => a == b
  | time a, time b => a == b
  | timestamp a, timestamp b => a == b
  | timestampTz a, timestampTz b => a == b
  | uuid a, uuid b => a == b
  | json a, json b => a.same b
  | array a, array b => sameItems a b
  | enumeration t a, enumeration u b => t == u && a == b
  | _, _ => false

/-- Whether two lists of values are equal item by item. -/
def sameItems : List Value → List Value → Bool
  | [], [] => true
  | a :: as, b :: bs => same a b && sameItems as bs
  | _, _ => false

end

/-! ## Lemmas -/

/-- The leaves of a list of values are those of each in turn. -/
theorem leavesOf_eq (items : List Value) : leavesOf items = items.flatMap leaves := by
  induction items with
  | nil => rfl
  | cons item rest ih => simp [leavesOf, ih]

/-- A list of values is leafless when each of them is. -/
theorem areLeafless_eq (items : List Value) : areLeafless items = items.all isLeafless := by
  induction items with
  | nil => rfl
  | cons item rest ih => simp [areLeafless, ih]

/-! ## Checks -/

example : (array [array [], array [int 1]]).depth = 2 := by decide
example : (array [int 1, null, int 2]).sqlType? = some (.array .integer) := by decide
example : (array [int 1, text "a"]).sqlType? = none := by decide
example : (array [enumeration "C" "R"]).elementType? = none := by decide

end Value

end DataMapper
