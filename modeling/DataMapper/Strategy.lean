import DataMapper.Binder
import DataMapper.Entity.Context
import DataMapper.Entity.Transfer
import DataMapper.StatementMapper
import DataMapper.Template.Cache
import DataMapper.Template.Expansion

/-!
# Data-access strategies

A `Strategy` is what a repository layer is given for one dialect: the converters
of a user before those of the dialect, the entity types resolved so far, and the
caches of templates and of expression queries.  An operation that resolves a
type or uses a cache gives the strategy as it is afterwards.

The columns of a type that is known by its identity alone are its columns once it
was resolved, and `*` before.
-/

namespace DataMapper

/-- A dialect with converters, resolved entity types and caches. -/
structure Strategy where
  dialect : Dialect
  conversions : Conversions
  /-- The entity types resolved so far. -/
  context : MappingContext
  /-- The templates read so far. -/
  templates : Cache Template
  /-- The queries with expressions read so far. -/
  queries : Cache ExpressionQuery

namespace Strategy

/-- A strategy of a dialect with a user's converters, an earlier context, and
caches of a capacity. -/
def new (d : Dialect) (user : List Converter) (context : MappingContext) (capacity : Nat) :
    Strategy where
  dialect := d
  conversions := d.conversions user
  context := context
  templates := .empty capacity
  queries := .empty capacity

def converter (s : Strategy) : EntityConverter := ⟨s.conversions, s.dialect⟩

def mapper (s : Strategy) : StatementMapper := ⟨s.dialect, s.conversions⟩

/-! ## Entity types -/

/-- What a function makes of the description of a type, which is resolved first. -/
def withEntity {α : Type} (s : Strategy) (type : EntityType)
    (f : PersistentEntity → Except Error α) : Except Error α × Strategy :=
  let (entity, context) := s.context.resolve type
  (entity.bind f, { s with context := context })

def entity (s : Strategy) (type : EntityType) : Except Error PersistentEntity × Strategy :=
  s.withEntity type .ok

def allColumns (s : Strategy) (type : EntityType) : Except Error (List Identifier) × Strategy :=
  s.withEntity type fun entity => .ok entity.columns

def idColumns (s : Strategy) (type : EntityType) : Except Error (List Identifier) × Strategy :=
  s.withEntity type fun entity => .ok (entity.idProperties.map Property.column)

def tableName (s : Strategy) (type : EntityType) : Except Error Identifier × Strategy :=
  s.withEntity type fun entity => .ok entity.table

/-- The columns of a type known by its identity. -/
def columnsFor (s : Strategy) (typeId : TypeId) : List Identifier :=
  match s.context.find? typeId with
  | some entity => entity.columns
  | none => [.unquoted "*"]

/-! ## Entities and rows -/

def outboundRow (s : Strategy) (type : EntityType) (i : Instance) :
    Except Error OutboundRow × Strategy :=
  s.withEntity type fun entity => s.converter.outboundRow entity i

def read (s : Strategy) (type : EntityType) (row : Row) : Except Error Instance × Strategy :=
  s.withEntity type fun entity => s.converter.read type entity row

/-- An instance with its identifier taken from a row where it has none. -/
def populateId (s : Strategy) (type : EntityType) (i : Instance) (row : Row) :
    Except Error Instance × Strategy :=
  s.withEntity type fun entity => s.converter.populateId type entity i row

/-! ## Statements of entities -/

def insertion (s : Strategy) (type : EntityType) (i : Instance) :
    Except Error Operation × Strategy :=
  s.withEntity type fun entity => do
    s.mapper.mapInsert ⟨entity.table, ← s.converter.outboundRow entity i⟩

/-- The update of rows by the values of an instance. -/
def modification (s : Strategy) (type : EntityType) (i : Instance) (criteria : Criteria) :
    Except Error Operation × Strategy :=
  s.withEntity type fun entity => do
    s.mapper.mapUpdate ⟨entity.table, .ofRow (← s.converter.outboundRow entity i), criteria⟩

def selection (s : Strategy) (type : EntityType) (criteria : Criteria) :
    Except Error Operation × Strategy :=
  s.withEntity type fun entity =>
    s.mapper.mapSelect
      (SelectSpec.project { table := entity.table, criteria := criteria } entity.columns)

/-! ## Queries -/

/-- A template expanded with the values of a provider. -/
def processNamed (s : Strategy) (sql : String) (provider : Provider) :
    Except Error Operation × Strategy :=
  let (template, templates) := s.templates.request Template.parse sql
  (template.expand s.dialect.markers provider, { s with templates := templates })

/-- A query with its expressions replaced. -/
def expressionQuery (s : Strategy) (query : String) : ExpressionQuery × Strategy :=
  let (replaced, queries) := s.queries.request ExpressionQuery.create query
  (replaced, { s with queries := queries })

/-- A binder of a query that may hold expressions. -/
def binder (s : Strategy) (query : String) : Binder × Strategy :=
  let (replaced, s) := s.expressionQuery query
  (⟨replaced, s.converter, []⟩, s)

end Strategy

end DataMapper
