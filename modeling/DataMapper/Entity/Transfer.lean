import DataMapper.Entity.Coercion
import DataMapper.OutboundRow
import DataMapper.Row

/-!
# Entities to rows and back

Writing takes the properties of an instance one by one through the write
converters into an outbound row.  It stops at the first that fails, and what was
written before stays.  The outbound row of an entity has its collections brought
to the arrays of the dialect besides, and there is none when anything fails.

Reading visits the columns of a row in the order of the driver.  A column goes
to the first property that it matches, and a second column for a property is
passed over.  The value goes through the read converters.  Then each property
without a column has to be one that can be NULL.  What the properties became
makes the instance, and a conversion error met there names the driver's label
of the column in place of the field.

Populating an identifier stores into each field of the identifier that has no
value the value of the first column that matches.
-/

namespace DataMapper

namespace EntityConverter

/-! ## Writing -/

/-- A value of a property, converted and typed. -/
def writeProperty (c : EntityConverter) (property : Property) (value : Value) :
    Except Error Settable :=
  (atColumn property.column.name (c.conversions.writeValue value)).map fun written =>
    .ofValue written (writtenType (c.conversions.hasWriter value) written property.sqlType)

/-- Writes named values into a row.  The row is what was written when that fails. -/
def writeInto (c : EntityConverter) (entity : PersistentEntity) :
    List (String × Value) → OutboundRow → Except Error Unit × OutboundRow
  | [], sink => (.ok (), sink)
  | (name, value) :: rest, sink =>
      match entity.property? name with
      | none => (.error (.mapping (.unknownProperty name) (some entity.typeName)), sink)
      | some property =>
          match c.writeProperty property value with
          | .error e => (.error e, sink)
          | .ok settable => c.writeInto entity rest (sink.put property.column settable)

/-- A row with its collections brought to the arrays of the dialect. -/
def coerceCollections (c : EntityConverter) : List Property → OutboundRow → Except Error OutboundRow
  | [], row => .ok row
  | property :: rest, row =>
      match (if property.isCollection then row.get? property.column else none) with
      | none => c.coerceCollections rest row
      | some current => do
          let coerced ← c.arrayValue current property
          c.coerceCollections rest (row.put property.column coerced)

def outboundRow (c : EntityConverter) (entity : PersistentEntity) (i : Instance) :
    Except Error OutboundRow :=
  match c.writeInto entity i.properties .empty with
  | (.error e, _) => .error e
  | (.ok (), row) => c.coerceCollections entity.properties row

/-! ## Reading -/

/-- The values of properties that were read, and the positions of the properties. -/
structure ReadState where
  /-- The positions of the properties with a column. -/
  seen : List Nat
  values : PropertyValues

/-- Columns from a position on, read into what was read before. -/
def readColumns (c : EntityConverter) (entity : PersistentEntity) (row : Row) :
    Nat → List Column → ReadState → Except Error ReadState
  | _, [], state => .ok state
  | position, column :: rest, state =>
      match entity.slotOf? column.label with
      | none => c.readColumns entity row (position + 1) rest state
      | some slot =>
          if state.seen.contains slot then c.readColumns entity row (position + 1) rest state
          else match entity.properties[slot]? with
            | none => c.readColumns entity row (position + 1) rest state
            | some property => do
                let value ← atColumn column.label
                  (c.conversions.readValue (row.getOrNull position) property.sqlType)
                c.readColumns entity row (position + 1) rest
                  ⟨slot :: state.seen, state.values.insert property.name value⟩

/-- The first property from a position on that has no column and cannot be NULL. -/
def missing? (seen : List Nat) : Nat → List Property → Option Property
  | _, [] => none
  | slot, property :: rest =>
      if !seen.contains slot && !property.nullable then some property
      else missing? seen (slot + 1) rest

def readProperties (c : EntityConverter) (entity : PersistentEntity) (row : Row) :
    Except Error PropertyValues := do
  let state ← c.readColumns entity row 0 row.columns ⟨[], .empty⟩
  match missing? state.seen 0 entity.properties with
  | some property =>
      .error (.mapping (.missingColumn property.column.name property.name) (some entity.typeName))
  | none => .ok state.values

/-- The first column that matches the column of a property. -/
def columnOf? (columns : Columns) (property : Property) : Option Column :=
  columns.find? fun column => property.column.matchesLabel column.label

/-- A conversion error that names a property, naming the driver's label instead. -/
def driverLabel (entity : PersistentEntity) (columns : Columns) : Error → Error
  | .conversion expected actual (some name) =>
      let label := (entity.property? name).bind fun property =>
        (columnOf? columns property).map Column.label
      .conversion expected actual (some (label.getD name))
  | error => error

def read (c : EntityConverter) (type : EntityType) (entity : PersistentEntity) (row : Row) :
    Except Error Instance := do
  let values ← c.readProperties entity row
  (type.ofProperties values).mapError (driverLabel entity row.columns)

end EntityConverter

/-! ## Reading back -/

/-- The row in which a driver gives back what was written: the columns by name,
an empty value being the NULL. -/
def OutboundRow.readBack (row : OutboundRow) : Row :=
  ⟨.ofLabels (row.columns.map Identifier.name), row.entries.map fun e => e.2.value.getD .null⟩

namespace EntityConverter

/-! ## Identifiers -/

/-- Stores the identifier fields in a row into the fields that have no value. -/
def populateFields (c : EntityConverter) (type : EntityType) (row : Row) :
    List Property → Instance → Except Error Instance
  | [], i => .ok i
  | property :: rest, i =>
      if ((i.get? property.name).getD .null).isNull then
        match row.columns.findIdx? fun column => property.column.matchesLabel column.label with
        | none => c.populateFields type row rest i
        | some position => do
            let value ← atColumn property.column.name
              (c.conversions.readValue (row.getOrNull position) property.sqlType)
            let i ← type.setProperty i property.name value
            c.populateFields type row rest i
      else c.populateFields type row rest i

/-- An instance with its identifier taken from a row where it has none. -/
def populateId (c : EntityConverter) (type : EntityType) (entity : PersistentEntity) (i : Instance)
    (row : Row) : Except Error Instance :=
  c.populateFields type row entity.idProperties i

end EntityConverter

end DataMapper
