import DataMapper.FieldType
import DataMapper.Identifier

/-!
# Entities

An `EntityType` says how data of one type lie in a table: the table, and for
each persistent field its column, type, nullability, whether it belongs to the
identifier, and how its data are written and read.  Its `PersistentEntity` is
the part a mapping needs, and `EntityType.resolve` gives it when it is valid.

A type has an identity, by which it is told apart from others, and a name, which
stands in messages.  Types of one name may have different identities.

* The table has a name.
* Each column has a name, and no two columns are equivalent.

The properties are looked at in order, and of one property the name comes first.

An `Instance` holds the values of the persistent fields of one entity by name,
and its transient fields.  `PropertyValues` is what a row gave for the fields, a
field the row did not give being NULL.  An instance is made of them field by
field in order: a field reads its value as its data and holds what these are
written as.
-/

namespace DataMapper

/-! ## Descriptions -/

/-- A persistent field as a mapping sees it. -/
structure Property where
  name : String
  column : Identifier
  sqlType : SqlType
  /-- Whether the field belongs to the identifier. -/
  isId : Bool := false
  /-- Whether the field can be NULL. -/
  nullable : Bool := false
  deriving DecidableEq, Repr

def Property.isCollection (p : Property) : Bool := p.sqlType.isArray

/-- The type of the items of a property, the type itself when it is no array. -/
def Property.itemType (p : Property) : SqlType := p.sqlType.element

/-- A persistent field with how its data are written and read. -/
structure Field extends Property where
  codec : Codec
  /-- The error that the making of an instance meets at this field, if any. -/
  refusal : Option Error := none

/-- A field whose column type and nullability follow its data. -/
def Field.ofCodec (name : String) (column : Identifier) (codec : Codec) (isId : Bool) : Field where
  name := name
  column := column
  sqlType := codec.sqlType
  isId := isId
  nullable := codec.nullable
  codec := codec

/-- A field whose data are of a field type. -/
def Field.ofType (name : String) (column : Identifier) (type : FieldType) (isId : Bool) : Field :=
  .ofCodec name column type.codec isId

/-- The value that a field holds after a value is stored in it. -/
def Field.normalise (f : Field) (value : Value) : Except Error Value := f.codec.normalise value

/-- The identity of a type. -/
structure TypeId where
  number : Nat
  deriving DecidableEq, Repr

/-- The identity of a type with its name. -/
structure TypeRef where
  typeId : TypeId
  typeName : String
  deriving DecidableEq, Repr

/-- How the data of one type lie in a table. -/
structure EntityType extends TypeRef where
  table : Identifier
  fields : List Field
  /-- The transient fields with the values of a new instance. -/
  transients : List (String × Value) := []

/-- What a mapping knows about an entity type. -/
structure PersistentEntity where
  typeName : String
  table : Identifier
  properties : List Property
  deriving DecidableEq, Repr

namespace PersistentEntity

def columns (e : PersistentEntity) : List Identifier := e.properties.map Property.column

/-- The properties of the identifier in order. -/
def idProperties (e : PersistentEntity) : List Property := e.properties.filter Property.isId

/-- The first property of the identifier. -/
def idProperty? (e : PersistentEntity) : Option Property := e.properties.find? Property.isId

def property? (e : PersistentEntity) (name : String) : Option Property :=
  e.properties.find? fun p => p.name == name

/-- The first property of a column. -/
def propertyOfColumn? (e : PersistentEntity) (column : Identifier) : Option Property :=
  e.properties.find? fun p => p.column.equiv column

/-- The position of the first property whose column matches a label. -/
def slotOf? (e : PersistentEntity) (label : String) : Option Nat :=
  e.properties.findIdx? fun p => p.column.matchesLabel label

/-- What is wrong with properties, the columns of those before being taken. -/
def propertyFault? (taken : List Identifier) : List Property → Option MappingFault
  | [] => none
  | p :: rest =>
      if p.column.name.isEmpty then some (.emptyColumn p.name)
      else if taken.any fun column => column.equiv p.column then some (.sharedColumn p.column.name)
      else propertyFault? (p.column :: taken) rest

/-- What is wrong with a description. -/
def fault? (e : PersistentEntity) : Option MappingFault :=
  if e.table.name.isEmpty then some .emptyTable else propertyFault? [] e.properties

/-- A description when it is valid. -/
def validate (e : PersistentEntity) : Except Error PersistentEntity :=
  match e.fault? with
  | some fault => .error (.mapping fault (some e.typeName))
  | none => .ok e

end PersistentEntity

namespace EntityType

def describe (t : EntityType) : PersistentEntity :=
  ⟨t.typeName, t.table, t.fields.map Field.toProperty⟩

/-- The description of an entity type when it is valid. -/
def resolve (t : EntityType) : Except Error PersistentEntity := t.describe.validate

def field? (t : EntityType) (name : String) : Option Field :=
  t.fields.find? fun f => f.name == name

def unknownProperty (t : EntityType) (name : String) : Error :=
  .mapping (.unknownProperty name) (some t.typeName)

end EntityType

/-! ## Property values -/

/-- Values by the names of fields, each name once. -/
structure PropertyValues where
  /-- The values, in the order in which the names came. -/
  entries : List (String × Value)

/-- A named value put into named values, replacing one of the same name. -/
def putNamed (name : String) (value : Value) : List (String × Value) → List (String × Value)
  | [] => [(name, value)]
  | (key, old) :: rest =>
      if key = name then (key, value) :: rest else (key, old) :: putNamed name value rest

namespace PropertyValues

def empty : PropertyValues := ⟨[]⟩

/-- Puts the value of a field, replacing an earlier one. -/
def insert (v : PropertyValues) (name : String) (value : Value) : PropertyValues :=
  ⟨putNamed name value v.entries⟩

/-- The value of a field, the NULL when there is none. -/
def get (v : PropertyValues) (name : String) : Value := (v.entries.lookup name).getD .null

/-- The value of a field as a field of a codec holds it. -/
def getAs (v : PropertyValues) (name : String) (codec : Codec) : Except Error Value :=
  atColumn name (codec.normalise (v.get name))

/-- The number of fields with a value. -/
def size (v : PropertyValues) : Nat := v.entries.length

/-- The values that named values give when they are put one after the other. -/
def ofList (values : List (String × Value)) : PropertyValues :=
  values.foldl (fun v entry => v.insert entry.1 entry.2) empty

end PropertyValues

/-! ## Instances -/

/-- One entity: the values of its persistent fields by name, and its transient fields. -/
structure Instance where
  properties : List (String × Value)
  transient : List (String × Value) := []

/-- The value of the first persistent field of a name. -/
def Instance.get? (i : Instance) (name : String) : Option Value := i.properties.lookup name

namespace EntityType

/-- The value of a field of a new instance. -/
def readField (values : PropertyValues) (f : Field) : Except Error (String × Value) :=
  match f.refusal with
  | some error => .error error
  | none => (values.getAs f.name f.codec).map fun value => (f.name, value)

def ofProperties (t : EntityType) (values : PropertyValues) : Except Error Instance :=
  (t.fields.mapM (readField values)).map fun properties => ⟨properties, t.transients⟩

/-- Stores a value in a persistent field. -/
def setProperty (t : EntityType) (i : Instance) (name : String) (value : Value) :
    Except Error Instance :=
  match t.field? name with
  | some f =>
      (atColumn f.column.name (f.normalise value)).map fun value =>
        { i with properties := putNamed name value i.properties }
  | none => .error (t.unknownProperty name)

end EntityType

end DataMapper
