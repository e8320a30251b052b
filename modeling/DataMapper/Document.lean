import DataMapper.Identifier
import DataMapper.Json.Access
import DataMapper.Json.Written
import DataMapper.Value

/-!
# Types, identifiers and values as documents

SQL types and values are written as variants, a kind without data as its name
alone and any other as an object of one member.  Identifiers, and variants of
enumerations, are records.

The fields of a record are written in their order.  A list of bytes is a list of
integers.  A document that is the data of a value is canonical.

`SqlType.ofText?`, `Identifier.ofText?` and `Value.ofText?` read a whole text.
They look at the members of a record that are its fields and at no others, and
these may hold what has no meaning elsewhere.

What is written reads back, but an infinity or a NaN does not: its text is null,
which no number is read from.
-/

namespace DataMapper

def variantDocument (name : String) (data : Json) : Json := .object [(name, data)]

/-! ## SQL types -/

namespace SqlType

/-- The types without data, by the names of their variants. -/
def plainVariants : List (String × SqlType) :=
  [("TinyInt", tinyInt), ("SmallInt", smallInt), ("Integer", integer), ("BigInt", bigInt),
   ("Real", real), ("Double", double), ("Decimal", decimal), ("Boolean", boolean),
   ("Text", text), ("Blob", blob), ("Date", date), ("Time", time), ("Timestamp", timestamp),
   ("TimestampTz", timestampTz), ("Uuid", uuid), ("Json", json)]

/-- The variant of a type without data. -/
def plainName? (type : SqlType) : Option String :=
  (plainVariants.find? fun entry => entry.2 == type).map (·.1)

def document : SqlType → Json
  | varChar length => variantDocument "VarChar" (.number (.int length.toNat))
  | array inner => variantDocument "Array" inner.document
  | custom name => variantDocument "Custom" (.string name)
  | type => .string (type.plainName?.getD "")

/-- The type without data of a variant. -/
def ofPlain? (name : String) (data : Option Json) : Option SqlType :=
  if Json.isBare data then plainVariants.lookup name else none

def ofDocument? : Json → Option SqlType
  | .object [("VarChar", doc)] => (doc.unsigned? 32).map fun length => varChar (.ofNat length)
  | .object [("Array", doc)] => (ofDocument? doc).map array
  | .object [("Custom", doc)] => doc.text?.map custom
  | doc => doc.variant?.bind fun v => ofPlain? v.1 v.2

def ofText? (text : String) : Option SqlType := (Json.ofText? text).bind ofDocument?

end SqlType

/-! ## Identifiers -/

namespace Identifier

def document (i : Identifier) : Json :=
  .object [("name", .string i.name), ("quoted", .bool i.quoted)]

/-- The names of the fields, in order. -/
def fieldNames : List String := ["name", "quoted"]

def ofDocument? (doc : Json) : Option Identifier :=
  match doc.record? fieldNames with
  | some [some name, some quoted] => do some ⟨← name.text?, ← quoted.truth?⟩
  | _ => none

def ofText? (text : String) : Option Identifier :=
  (Json.recordOfText? fieldNames text).bind ofDocument?

end Identifier

/-! ## Values -/

namespace Value

/-- The document of an integer that is data of a variant. -/
def integerDocument (name : String) (n : Int) : Json := variantDocument name (.number (.int n))

def bytesDocument (data : List UInt8) : Json :=
  .array (data.map fun b => .number (.int b.toNat))

mutual

def document : Value → Json
  | null => .string "Null"
  | bool b => variantDocument "Bool" (.bool b)
  | tinyInt n => integerDocument "TinyInt" n.toInt
  | smallInt n => integerDocument "SmallInt" n.toInt
  | int n => integerDocument "Int" n.toInt
  | bigInt n => integerDocument "BigInt" n.toInt
  | float x => variantDocument "Float" (.number (.single x))
  | double x => variantDocument "Double" (.number (.float x))
  | decimal digits => variantDocument "Decimal" (.string digits)
  | text s => variantDocument "Text" (.string s)
  | bytes data => variantDocument "Bytes" (bytesDocument data)
  | date days => integerDocument "Date" days.toInt
  | time micros => integerDocument "Time" micros.toInt
  | timestamp micros => integerDocument "Timestamp" micros.toInt
  | timestampTz micros => integerDocument "TimestampTz" micros.toInt
  | uuid data => variantDocument "Uuid" (bytesDocument data.toList)
  | json doc => variantDocument "Json" doc
  | array items => variantDocument "Array" (.array (documents items))
  | enumeration typeName variant =>
      variantDocument "Enum" (.object [("type_name", .string typeName), ("name", .string variant)])

def documents : List Value → List Json
  | [] => []
  | item :: rest => item.document :: documents rest

end

/-- The universally unique identifier in a document. -/
def uuidOf? (doc : Json) : Option Value := do
  let data ← doc.bytes?
  if h : data.toArray.size = 16 then some (.uuid ⟨data.toArray, h⟩) else none

/-- The names of the fields of a variant of an enumeration, in order. -/
def variantFields : List String := ["type_name", "name"]

def enumerationOf? (doc : Json) : Option Value :=
  match doc.record? variantFields with
  | some [some typeName, some variant] => do
      some (.enumeration (← typeName.text?) (← variant.text?))
  | _ => none

/-- The value of a variant with data that is no array. -/
def ofData? (name : String) (doc : Json) : Option Value :=
  match name with
  | "Bool" => doc.truth?.map bool
  | "TinyInt" => (doc.signed? 8).map fun n => tinyInt (.ofInt n)
  | "SmallInt" => (doc.signed? 16).map fun n => smallInt (.ofInt n)
  | "Int" => (doc.signed? 32).map fun n => int (.ofInt n)
  | "BigInt" => (doc.signed? 64).map fun n => bigInt (.ofInt n)
  | "Float" => doc.single?.map float
  | "Double" => doc.double?.map double
  | "Decimal" => doc.text?.map decimal
  | "Text" => doc.text?.map text
  | "Bytes" => doc.bytes?.map bytes
  | "Date" => (doc.signed? 32).map fun n => date (.ofInt n)
  | "Time" => (doc.signed? 64).map fun n => time (.ofInt n)
  | "Timestamp" => (doc.signed? 64).map fun n => timestamp (.ofInt n)
  | "TimestampTz" => (doc.signed? 64).map fun n => timestampTz (.ofInt n)
  | "Uuid" => uuidOf? doc
  | "Json" => some (json doc.canonical)
  | "Enum" => enumerationOf? doc
  | _ => none

mutual

def ofDocument? : Json → Option Value
  | .string "Null" => some null
  | .object [("Null", .null)] => some null
  | .object [("Array", .array items)] => (ofDocuments? items).map array
  | .object [(name, doc)] => ofData? name doc
  | _ => none

def ofDocuments? : List Json → Option (List Value)
  | [] => some []
  | doc :: rest => do
      let value ← ofDocument? doc
      let values ← ofDocuments? rest
      some (value :: values)

end

/-- A document of a value, with at most so many levels, without the members that
no field of a variant is named for. -/
def prune : Nat → Json.Written → Json.Written
  | levels + 1, .object [(some "Array", .array items)] =>
      .object [(some "Array", .array (items.map (prune levels)))]
  | _, .object [(some "Enum", doc)] => .object [(some "Enum", doc.only variantFields)]
  | _, doc => doc

def ofText? (text : String) : Option Value := do
  let written ← Json.Written.ofText? text
  let doc ← (prune Json.nesting written).document? Json.nesting
  ofDocument? doc

end Value

/-! ## Checks -/

example : (SqlType.array (.varChar 3)).document.render
    = "\x7b\"Array\":\x7b\"VarChar\":3\x7d\x7d" := by decide +kernel
example : SqlType.ofDocument? (.object [("Text", .null)]) = some .text := by decide +kernel

end DataMapper
