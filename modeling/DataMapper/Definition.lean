import DataMapper.Entity
import DataMapper.Text.CharClass
import DataMapper.Text.LetterCase

/-!
# Definitions of entities

A `Declaration` is a declared type with attributes, and `Declaration.define`
reads the definition of an entity from it.  Only attributes of one name count.
Each holds settings, which are keys with or without a value.

* On the type, `table` names the table and comes at most once, and `quoted`
  quotes its name.  A table without a name has that of the type in snake case.
* On a field, `column` names the column, the last one counting, `quoted` quotes
  its name, `id` makes the field part of the identifier, and `transient` keeps
  it out of the table.  A column without a name has that of the field.  A
  transient field has neither an `id` nor a `column`.

Settings are read in order, those of the type first, then the fields in order,
and the first fault is reported.

`EntityDefinition.violations` lists everything that is wrong with a definition:
type parameters, a lack of persistent fields, names that are blank or hold a
character that could end a statement or begin quoted text or a comment, and
columns that occur twice.
-/

namespace DataMapper

/-! ## Declarations -/

/-- A value in a setting. -/
inductive Literal where
  | text (s : String)
  | other
  deriving DecidableEq, Repr

/-- A key with its value.  The key is a path of names. -/
structure Setting where
  key : List String
  value : Option Literal
  deriving DecidableEq, Repr

/-- An attribute with settings.  Its name is a path of names. -/
structure Attribute where
  path : List String
  settings : List Setting
  deriving DecidableEq, Repr

/-- The kinds of declared types. -/
inductive DeclarationForm where
  /-- A structure with named fields. -/
  | record
  /-- A structure with fields by position. -/
  | tuple
  /-- A structure without fields. -/
  | unit
  | sum
  | union
  deriving DecidableEq, Repr

structure FieldDeclaration where
  name : String
  attributes : List Attribute
  deriving DecidableEq, Repr

/-- A declared type. -/
structure Declaration where
  name : String
  form : DeclarationForm := .record
  generic : Bool := false
  attributes : List Attribute := []
  fields : List FieldDeclaration
  deriving DecidableEq, Repr

/-! ## Faults -/

/-- What a setting belongs to. -/
inductive SettingLevel where
  | type
  | field
  deriving DecidableEq, Repr

/-- Why a declaration defines no entity. -/
inductive DeclarationFault where
  | repeatedTable
  /-- A name is no text. -/
  | notText (level : SettingLevel)
  /-- A key needs a value. -/
  | missingValue
  /-- A key takes no value. -/
  | surplusValue
  /-- A key is not known. -/
  | unknownKey (level : SettingLevel) (key : List String)
  /-- The type is no structure with named fields. -/
  | form (form : DeclarationForm)
  /-- A transient field is part of the identifier or names its column. -/
  | transientColumn
  deriving DecidableEq, Repr

/-- The key in a message, a path of several names not being spelled out. -/
def keyText : List String → String
  | [key] => key
  | _ => "?"

/-- The text of a fault, for attributes of a name. -/
def DeclarationFault.message (tag : String) : DeclarationFault → String
  | repeatedTable => "duplicate " ++ tag ++ " attribute: table"
  | notText .type => "expected string literal for table name"
  | notText .field => "expected string literal for column name"
  | missingValue => "expected `=`"
  | surplusValue => "expected `,`"
  | unknownKey .type key =>
      "unknown " ++ tag ++ " struct attribute `" ++ keyText key
        ++ "`; expected `table` or `quoted`"
  | unknownKey .field key =>
      "unknown " ++ tag ++ " field attribute `" ++ keyText key
        ++ "`; expected `id`, `column`, `quoted` or `transient`"
  | form .sum => "Entity can only be derived for structs, not enums"
  | form .union => "Entity can only be derived for structs, not unions"
  | form .tuple => "Entity requires a struct with named fields, not a tuple struct"
  | form .unit | form .record => "Entity requires a struct with fields, not a unit struct"
  | transientColumn => "a transient field cannot also be `id` or carry a `column` name"

/-! ## Reading declarations -/

/-- What the settings of a type say. -/
structure TypeSettings where
  table : Option String := none
  quoted : Bool := false
  deriving DecidableEq, Repr

/-- What the settings of a field say. -/
structure FieldSettings where
  column : Option String := none
  isId : Bool := false
  /-- Whether the name of the column is quoted. -/
  quoted : Bool := false
  isTransient : Bool := false
  deriving DecidableEq, Repr

namespace Setting

/-- The text of a setting that names something. -/
def name (s : Setting) (level : SettingLevel) : Except DeclarationFault String :=
  match s.value with
  | some (.text name) => .ok name
  | some .other => .error (.notText level)
  | none => .error .missingValue

/-- The result of a setting that takes no value. -/
def flag {α : Type} (s : Setting) (result : α) : Except DeclarationFault α :=
  if s.value.isSome then .error .surplusValue else .ok result

end Setting

/-- What is said with one more setting of the type. -/
def TypeSettings.add (t : TypeSettings) (s : Setting) : Except DeclarationFault TypeSettings :=
  match s.key with
  | ["table"] =>
      if t.table.isSome then .error .repeatedTable
      else (s.name .type).map fun name => { t with table := some name }
  | ["quoted"] => s.flag { t with quoted := true }
  | key => .error (.unknownKey .type key)

/-- What is said with one more setting of the field. -/
def FieldSettings.add (f : FieldSettings) (s : Setting) : Except DeclarationFault FieldSettings :=
  match s.key with
  | ["id"] => s.flag { f with isId := true }
  | ["quoted"] => s.flag { f with quoted := true }
  | ["transient"] => s.flag { f with isTransient := true }
  | ["column"] => (s.name .field).map fun name => { f with column := some name }
  | key => .error (.unknownKey .field key)

/-- The settings of the attributes of a name, in order. -/
def settingsOf (tag : String) (attributes : List Attribute) : List Setting :=
  (attributes.filter fun a => a.path == [tag]).flatMap Attribute.settings

/-! ## Definitions -/

/-- A field of an entity. -/
structure FieldDefinition where
  name : String
  column : String
  isId : Bool
  /-- Whether the name of the column is quoted. -/
  quoted : Bool
  isTransient : Bool
  deriving DecidableEq, Repr

/-- An entity as it is declared. -/
structure EntityDefinition where
  name : String
  table : String
  quoted : Bool
  /-- Whether the type has type parameters. -/
  generic : Bool
  fields : List FieldDefinition
  deriving DecidableEq, Repr

def FieldDeclaration.define (tag : String) (f : FieldDeclaration) :
    Except DeclarationFault FieldDefinition := do
  let said ← (settingsOf tag f.attributes).foldlM FieldSettings.add {}
  if said.isTransient && (said.isId || said.column.isSome) then .error .transientColumn
  else .ok ⟨f.name, said.column.getD f.name, said.isId, said.quoted, said.isTransient⟩

/-- The definition that a declaration gives by its attributes of a name. -/
def Declaration.define (tag : String) (d : Declaration) :
    Except DeclarationFault EntityDefinition := do
  let said ← (settingsOf tag d.attributes).foldlM TypeSettings.add {}
  if d.form ≠ .record then .error (.form d.form)
  else do
    let fields ← d.fields.mapM (FieldDeclaration.define tag)
    .ok ⟨d.name, said.table.getD (Text.snakeCase d.name), said.quoted, d.generic, fields⟩

namespace FieldDefinition

def identifier (f : FieldDefinition) : Identifier := ⟨f.column, f.quoted⟩

/-- The key under which a column is looked for among those before it. -/
def columnKey (f : FieldDefinition) : String :=
  if f.quoted then "\"" ++ f.column ++ "\"" else Text.asciiLower f.column

/-- The field of an entity type whose data have a codec. -/
def field (f : FieldDefinition) (codec : Codec) : Field :=
  .ofCodec f.name f.identifier codec f.isId

end FieldDefinition

/-! ## Violations -/

/-- What is wrong with a definition. -/
inductive Violation where
  | generic
  /-- All fields are transient. -/
  | noFields
  /-- A name has no character but blanks.  `what` says of what. -/
  | blankName (what : String)
  /-- A name holds a character that it must not. -/
  | badCharacter (what name : String) (c : Char)
  | repeatedColumn (column : String)
  deriving DecidableEq, Repr

def Violation.message : Violation → String
  | generic => "Entity cannot be derived for generic structs"
  | noFields => "Entity struct must have at least one non-transient field"
  | blankName what => what ++ " name cannot be empty or whitespace"
  | badCharacter what name c =>
      what ++ " name '" ++ name ++ "' contains invalid character '" ++ c.toString ++ "'"
  | repeatedColumn column => "duplicate column name '" ++ column ++ "'"

/-- The characters that no name holds. -/
def badCharacters : List Char := [';', '\'', '"', '`', '/', '*', '\\', '\x00', '\n', '\r']

/-- What is wrong with a name. -/
def nameViolation? (what name : String) : Option Violation :=
  if Text.isBlank name then some (.blankName what)
  else (name.toList.find? badCharacters.contains).map (.badCharacter what name)

/-- The columns that occur among those before them, whose keys are given. -/
def repeatedColumns : List String → List FieldDefinition → List Violation
  | _, [] => []
  | seen, f :: rest =>
      if seen.contains f.columnKey then .repeatedColumn f.column :: repeatedColumns seen rest
      else repeatedColumns (f.columnKey :: seen) rest

namespace EntityDefinition

/-- The fields with a column. -/
def persistentFields (d : EntityDefinition) : List FieldDefinition :=
  d.fields.filter fun f => !f.isTransient

/-- The fields without a column. -/
def transientFields (d : EntityDefinition) : List FieldDefinition :=
  d.fields.filter FieldDefinition.isTransient

/-- Everything that is wrong with a definition. -/
def violations (d : EntityDefinition) : List Violation :=
  (if d.generic then [.generic] else [])
    ++ (if d.persistentFields.isEmpty then [.noFields] else [])
    ++ (nameViolation? "table" d.table).toList
    ++ d.persistentFields.filterMap (fun f => nameViolation? "column" f.column)
    ++ repeatedColumns [] d.persistentFields

/-- The entity type of a definition, given the identity of the type with its
qualified name, the codecs of its persistent fields and the transient fields of a
new instance. -/
def entityType (d : EntityDefinition) (ref : TypeRef) (codecOf : String → Codec)
    (transients : List (String × Value)) : EntityType where
  toTypeRef := ref
  table := ⟨d.table, d.quoted⟩
  fields := d.persistentFields.map fun f => f.field (codecOf f.name)
  transients := transients

end EntityDefinition

end DataMapper
