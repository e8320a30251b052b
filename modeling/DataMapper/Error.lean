import DataMapper.SqlType

/-!
# Errors

An `Error` is the cause of a failure, with what its message names.  The wording
of every message is in `Error.message` and the functions it calls, and nowhere
else.

* A mapping error says that an entity, a property or a column does not resolve.
* An unsupported feature is one the dialect lacks.
* A parameter error is a placeholder without a value, or a misused parameter.
* A conversion error says which type was expected, what was found instead and,
  once known, in which column.
* A render error says why a statement has no text.

`Error.withColumn` names the column of a conversion error, and the first column
named stays.
-/

namespace DataMapper

/-! ## Causes -/

/-- The kinds of mapping errors. -/
inductive MappingKind where
  /-- No description of the entity is known. -/
  | unknownEntity
  /-- The description of the entity is not valid. -/
  | invalidEntity
  /-- A row lacks the column of a property that cannot be NULL. -/
  | missingColumn
  /-- The entity has no property of a name. -/
  | unknownProperty
  deriving DecidableEq, Repr

/-- Why an entity, a property or a column does not resolve. -/
inductive MappingFault where
  /-- The entity was never resolved. -/
  | unregistered
  | emptyTable
  | emptyColumn (property : String)
  /-- A column belongs to more than one property. -/
  | sharedColumn (column : String)
  /-- A row has no column for a property that cannot be NULL. -/
  | missingColumn (column property : String)
  | unknownProperty (name : String)
  /-- A cause given from outside. -/
  | stated (kind : MappingKind) (message : String)
  deriving DecidableEq, Repr

/-- What a dialect may lack. -/
inductive Feature where
  | arrayColumns
  | arraysOf (element : SqlType)
  /-- A feature given from outside. -/
  | stated (feature : String)
  deriving DecidableEq, Repr

/-- Why a statement has no text. -/
inductive RenderFault where
  /-- An operator is applied to a column and the NULL. -/
  | nullOperand (column operator : String)
  /-- An operator is applied to an operand of a shape it does not take. -/
  | operandShape (operator operand column : String)
  /-- An insertion names no column. -/
  | noColumns
  /-- An insertion has not one value for each column. -/
  | columnCount (columns values : Nat)
  /-- An update assigns nothing. -/
  | noAssignments
  /-- A cause given from outside. -/
  | stated (message : String)
  deriving DecidableEq, Repr

/-- The cause of a failure. -/
inductive Error where
  /-- An entity, a property or a column does not resolve. -/
  | mapping (fault : MappingFault) (entity : Option String)
  | unsupported (feature : Feature) (dialect : String)
  /-- A placeholder of a query has no value. -/
  | missingParameter (name query : String)
  /-- A parameter is misused. -/
  | parameter (name : String) (query : Option String) (message : String)
  /-- A value is not of the type it is read as. -/
  | conversion (expected actual : String) (column : Option String)
  /-- A statement has no text.  The text so far is given when there is some. -/
  | render (fault : RenderFault) (sql : Option String)
  | cancelled
  /-- A configuration text is not well formed. -/
  | configuration
  /-- A cause given from outside. -/
  | custom (message : String)
  deriving DecidableEq, Repr

/-! ## Messages -/

namespace MappingFault

def kind : MappingFault → MappingKind
  | unregistered => .unknownEntity
  | emptyTable | emptyColumn _ | sharedColumn _ => .invalidEntity
  | missingColumn _ _ => .missingColumn
  | unknownProperty _ => .unknownProperty
  | stated kind _ => kind

def message : MappingFault → String
  | unregistered => "no persistent entity registered"
  | emptyTable => "table name must not be empty"
  | emptyColumn property => s!"property '{property}' has an empty column name"
  | sharedColumn column => s!"column '{column}' is mapped by more than one property"
  | missingColumn column property =>
      s!"row has no column '{column}' for non-nullable property '{property}'"
  | unknownProperty name => s!"no persistent property named '{name}'"
  | stated _ message => message

end MappingFault

def Feature.message : Feature → String
  | arrayColumns => "array columns"
  | arraysOf element => "arrays of " ++ element.sqlName
  | stated feature => feature

def RenderFault.message : RenderFault → String
  | nullOperand column operator => s!"cannot compare column {column} using {operator} with NULL"
  | operandShape operator operand column =>
      s!"comparator {operator} cannot take operand {operand} for column {column}"
  | noColumns => "INSERT requires at least one column"
  | columnCount columns values =>
      "INSERT has " ++ toString columns ++ " columns but " ++ toString values ++ " values"
  | noAssignments => "UPDATE requires at least one assignment"
  | stated message => message

namespace Error

def message : Error → String
  | mapping fault none => "Mapping error: " ++ fault.message
  | mapping fault (some entity) => "Mapping error: " ++ fault.message ++ " (" ++ entity ++ ")"
  | unsupported feature dialect =>
      "Unsupported feature: dialect " ++ dialect ++ " does not support " ++ feature.message
  | missingParameter name query =>
      s!"Invalid parameter usage: No parameter specified for [{name}] in query [{query}]"
  | parameter _ _ message => "Invalid parameter usage: " ++ message
  | conversion expected actual none =>
      s!"Conversion error: expected {expected}, found {actual}"
  | conversion expected actual (some column) =>
      s!"Conversion error: expected {expected} for column '{column}', found {actual}"
  | render fault none => "Render error: " ++ fault.message
  | render fault (some sql) => "Render error: " ++ fault.message ++ " (near `" ++ sql ++ "`)"
  | cancelled => "Operation cancelled"
  | configuration => "invalid strategy configuration"
  | custom message => message

def isMapping : Error → MappingKind → Bool
  | mapping fault _, kind => fault.kind = kind
  | _, _ => false

def isUnsupported : Error → Bool
  | unsupported _ _ => true
  | _ => false

/-- Names the column of a conversion error that names none. -/
def withColumn (column : String) : Error → Error
  | conversion expected actual none => conversion expected actual (some column)
  | error => error

end Error

/-- The outcome of a computation that names its column when it fails. -/
def atColumn {α : Type} (column : String) : Except Error α → Except Error α
  | .ok a => .ok a
  | .error e => .error (e.withColumn column)

end DataMapper
