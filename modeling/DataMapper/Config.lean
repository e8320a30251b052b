import DataMapper.Dialect
import DataMapper.Json.Access
import DataMapper.Json.Written
import DataMapper.Template.Cache

/-!
# Configuration of a strategy

A `Config` names a built-in dialect and the number of templates that a strategy
keeps.  `Config.ofText` reads it from a document.  A field that the document
leaves out has its value in `Config.standard`, and a list may leave out fields
at its end.
-/

namespace DataMapper

/-- The name of a built-in dialect. -/
inductive DialectName where
  | postgres
  | h2
  | mysql
  | sqlite
  | sqlServer
  deriving DecidableEq, Repr

namespace DialectName

def dialect : DialectName → Dialect
  | postgres => .postgres
  | h2 => .h2
  | mysql => .mysql
  | sqlite => .sqlite
  | sqlServer => .sqlServer

def all : List DialectName := [postgres, h2, mysql, sqlite, sqlServer]

def text (name : DialectName) : String := name.dialect.name

def ofDocument? (doc : Json) : Option DialectName :=
  doc.variant?.bind fun v =>
    if Json.isBare v.2 then all.find? fun name => name.text == v.1 else none

def ofText? (text : String) : Option DialectName := (Json.ofText? text).bind ofDocument?

def document (name : DialectName) : Json := .string name.text

end DialectName

/-- The settings of a strategy. -/
structure Config where
  dialect : DialectName
  /-- The number of templates that are kept at most. -/
  templateCapacity : Nat
  deriving DecidableEq, Repr

namespace Config

/-- The settings when none are given. -/
def standard : Config := ⟨.postgres, Cache.defaultCapacity⟩

/-- The settings with another number of templates. -/
def withTemplateCapacity (c : Config) (capacity : Nat) : Config :=
  { c with templateCapacity := capacity }

/-- The names of the fields, in order. -/
def fieldNames : List String := ["dialect", "parsed_sql_cache_capacity"]

/-- What a field holds, or a default when it is left out. -/
def fieldOr? {α : Type} (default : α) (read : Json → Option α) : Option Json → Option α
  | none => some default
  | some doc => read doc

def ofDocument? (doc : Json) : Option Config :=
  match doc.record? fieldNames with
  | some [dialect, capacity] => do
      some ⟨← fieldOr? standard.dialect DialectName.ofDocument? dialect,
        ← fieldOr? standard.templateCapacity (Json.unsigned? 64) capacity⟩
  | _ => none

def ofText (text : String) : Except Error Config :=
  match (Json.recordOfText? fieldNames text).bind ofDocument? with
  | some config => .ok config
  | none => .error .configuration

def document (c : Config) : Json :=
  .object [("dialect", c.dialect.document),
    ("parsed_sql_cache_capacity", .number (.int c.templateCapacity))]

/-! ## Checks -/

example : ofDocument? (.object []) = some standard := by decide +kernel
example : ofDocument? (.array [.string "mysql"]) = some ⟨.mysql, 256⟩ := by decide +kernel
example : ofDocument? (.object [("dialect", .null)]) = none := by decide +kernel

end Config

end DataMapper
