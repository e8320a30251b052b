import DataMapper.Conversion
import DataMapper.Identifier
import DataMapper.Marker

/-!
# Dialects

A `Dialect` is everything that differs between stores: the style of markers,
array columns, the writing of identifiers, paging, simple types and converters.

* `ArrayColumns` says whether a column can hold an array and of which elements.
  A store without 8-bit elements keeps them as 16-bit integers.
* `Paging` is the clause that limits a result.  A store may need a row count
  where only rows are skipped, and a store may page only an ordered result.

The five built-in dialects are `Dialect.postgres`, `Dialect.h2`, `Dialect.mysql`,
`Dialect.sqlite` and `Dialect.sqlServer`.
-/

namespace DataMapper

/-! ## Array columns -/

/-- The arrays that a column can hold. -/
structure ArrayColumns where
  /-- Whether a column can hold arrays at all. -/
  supported : Bool
  /-- Whether 8-bit elements are kept as 16-bit ones. -/
  widensTinyInt : Bool
  /-- The element types that are simple. -/
  simple : SimpleTypes
  deriving DecidableEq, Repr

/-- The element type under which a store keeps arrays of an element type. -/
def ArrayColumns.storeElement (arrays : ArrayColumns) (element : SqlType) (dialect : String) :
    Except Error SqlType :=
  if !arrays.supported then .error (.unsupported .arrayColumns dialect)
  else if !arrays.simple.holds element then .error (.unsupported (.arraysOf element) dialect)
  else if arrays.widensTinyInt && element == .tinyInt then .ok .smallInt
  else .ok element

/-! ## Paging -/

/-- The clause that limits a result. -/
inductive Paging where
  /-- A limit and an offset.  A row count may stand for the limit when there is only an offset. -/
  | limitOffset (maxRows : Option String)
  /-- An offset, and a fetch of the next rows. -/
  | offsetFetch
  deriving DecidableEq, Repr

namespace Paging

/-- The clause for a limit and an offset, if one of them is given. -/
def clause? : Paging → Option Nat → Option Nat → Option String
  | _, none, none => none
  | limitOffset _, some limit, none => some ("LIMIT " ++ toString limit)
  | limitOffset _, some limit, some offset =>
      some ("LIMIT " ++ toString limit ++ " OFFSET " ++ toString offset)
  | limitOffset (some rows), none, some offset =>
      some ("LIMIT " ++ rows ++ " OFFSET " ++ toString offset)
  | limitOffset none, none, some offset => some ("OFFSET " ++ toString offset)
  | offsetFetch, limit, offset =>
      let skip := "OFFSET " ++ toString (offset.getD 0) ++ " ROWS"
      match limit with
      | some limit => some (skip ++ " FETCH NEXT " ++ toString limit ++ " ROWS ONLY")
      | none => some skip

/-- Whether only an ordered result can be paged. -/
def requiresOrder : Paging → Bool
  | offsetFetch => true
  | limitOffset _ => false

end Paging

/-! ## Dialects -/

/-- What differs between stores. -/
structure Dialect where
  name : String
  markers : MarkerFactory
  arrays : ArrayColumns := ⟨false, false, ⟨[]⟩⟩
  /-- The writing of quoted identifiers. -/
  identifiers : IdentifierProcessing := .ansi
  paging : Paging := .limitOffset none
  simple : SimpleTypes := ⟨[]⟩
  converters : List Converter := []

namespace Dialect

/-- Indexed markers, arrays without 8-bit elements, small letters. -/
def postgres : Dialect where
  name := "postgres"
  markers := .indexed "$" 1
  arrays := ⟨true, true, ⟨[]⟩⟩
  identifiers := ⟨.ansi, .lower⟩

/-- Indexed markers, arrays, capitals. -/
def h2 : Dialect where
  name := "h2"
  markers := .indexed "$" 1
  arrays := ⟨true, false, ⟨[]⟩⟩

/-- Anonymous markers, grave accents, truth values as 8-bit integers. -/
def mysql : Dialect where
  name := "mysql"
  markers := .anonymous "?"
  identifiers := ⟨.backtick, .asIs⟩
  paging := .limitOffset (some "18446744073709551615")
  converters := [.booleanAsTinyInt]

/-- Indexed markers, no arrays. -/
def sqlite : Dialect where
  name := "sqlite"
  markers := .indexed "?" 1
  identifiers := ⟨.ansi, .asIs⟩
  paging := .limitOffset (some "-1")

/-- Named markers, square brackets, paging of ordered results. -/
def sqlServer : Dialect where
  name := "sql_server"
  markers := .named "@" { stem := "P", maxLength := 32 }
  identifiers := ⟨.brackets, .asIs⟩
  paging := .offsetFetch

def builtIn : List Dialect := [postgres, h2, mysql, sqlite, sqlServer]

def toSql (d : Dialect) (identifier : Identifier) : String := identifier.toSql d.identifiers

/-- The element type under which arrays of an element type are kept. -/
def storeElement (d : Dialect) (element : SqlType) : Except Error SqlType :=
  d.arrays.storeElement element d.name

/-- The registry of a user's converters and those of the dialect. -/
def conversions (d : Dialect) (user : List Converter) : Conversions :=
  .ofLists user d.converters d.simple

/-- A sequence of markers of the dialect. -/
def newMarkers (d : Dialect) : Markers := ⟨d.markers, 0⟩

end Dialect

/-! ## Checks -/

example : Paging.offsetFetch.clause? (some 3) none
    = some "OFFSET 0 ROWS FETCH NEXT 3 ROWS ONLY" := by decide
example : Dialect.postgres.storeElement .tinyInt = .ok .smallInt := by rfl

end DataMapper
