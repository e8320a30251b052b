/-!
# SQL types

The types a column can be declared with.  Array types nest, and the nesting
gives the number of dimensions.  A binary large object is no array.

`SqlType.element` is the type below all array dimensions, and `SqlType.wrap`
puts dimensions around a type.
-/

namespace DataMapper

/-- A type of a column. -/
inductive SqlType where
  | tinyInt
  | smallInt
  | integer
  | bigInt
  | real
  | double
  /-- Decimals of any precision. -/
  | decimal
  | boolean
  /-- Texts of bounded length. -/
  | varChar (length : UInt32)
  | text
  | blob
  | date
  | time
  /-- Points in time without a zone. -/
  | timestamp
  /-- Points in time with a zone. -/
  | timestampTz
  | uuid
  | json
  | array (inner : SqlType)
  /-- A type of the store or of the user, by name. -/
  | custom (name : String)
  deriving DecidableEq, Repr, Inhabited

namespace SqlType

def sqlName : SqlType → String
  | tinyInt => "TINYINT"
  | smallInt => "SMALLINT"
  | integer => "INTEGER"
  | bigInt => "BIGINT"
  | real => "REAL"
  | double => "DOUBLE PRECISION"
  | decimal => "DECIMAL"
  | boolean => "BOOLEAN"
  | varChar length => "VARCHAR(" ++ toString length.toNat ++ ")"
  | text => "TEXT"
  | blob => "BLOB"
  | date => "DATE"
  | time => "TIME"
  | timestamp => "TIMESTAMP"
  | timestampTz => "TIMESTAMPTZ"
  | uuid => "UUID"
  | json => "JSON"
  | array inner => inner.sqlName ++ "[]"
  | custom name => name

def isArray : SqlType → Bool
  | array _ => true
  | _ => false

/-- Whether values of the type are byte strings. -/
def isBinary : SqlType → Bool
  | blob => true
  | _ => false

def isNumeric : SqlType → Bool
  | tinyInt | smallInt | integer | bigInt | real | double | decimal => true
  | _ => false

def isText : SqlType → Bool
  | varChar _ | text => true
  | _ => false

/-- The type below all array dimensions, the type itself when it has none. -/
def element : SqlType → SqlType
  | array inner => inner.element
  | type => type

/-- The number of array dimensions. -/
def dimensions : SqlType → Nat
  | array inner => inner.dimensions + 1
  | _ => 0

/-- The array type of a number of dimensions over a type. -/
def wrap (type : SqlType) : Nat → SqlType
  | 0 => type
  | depth + 1 => array (type.wrap depth)

/-! ## Lemmas -/

/-- Only an array has dimensions. -/
theorem isArray_eq (type : SqlType) : type.isArray = decide (0 < type.dimensions) := by
  cases type <;> simp [isArray, dimensions]

/-- An element type has no dimensions. -/
theorem dimensions_element (type : SqlType) : type.element.dimensions = 0 := by
  induction type <;> simp_all [element, dimensions]

/-- Wrapping adds its dimensions. -/
theorem dimensions_wrap (type : SqlType) (depth : Nat) :
    (type.wrap depth).dimensions = depth + type.dimensions := by
  induction depth with
  | zero => simp [wrap]
  | succ depth ih => simp only [wrap, dimensions, ih]; omega

/-- Wrapping leaves the element type. -/
theorem element_wrap (type : SqlType) (depth : Nat) : (type.wrap depth).element = type.element := by
  induction depth with
  | zero => rfl
  | succ depth ih => simpa only [wrap, element] using ih

/-- A type is its element type with its dimensions around it. -/
theorem wrap_element (type : SqlType) : type.element.wrap type.dimensions = type := by
  induction type <;> simp_all [element, dimensions, wrap]

end SqlType

end DataMapper
