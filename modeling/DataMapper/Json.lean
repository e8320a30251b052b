import DataMapper.Number.Shortest

/-!
# JSON documents

A document is a tree.  An object is a list of members, and two lists that hold
the same members are the same object only when they are in canonical order, so
`Json.canonical` sorts the members of every object by name and keeps the last of
those with one name.

`Json.render` writes a document without blanks.
-/

namespace DataMapper

/-- A number of a document. -/
inductive JsonNumber where
  | int (n : Int)
  /-- Any other number. -/
  | float (x : Binary64)
  /-- A number of single precision, which has fewer digits.  No text is read as one. -/
  | single (x : Binary32)
  deriving DecidableEq, Repr

/-- A JSON document. -/
inductive Json where
  | null
  | bool (b : Bool)
  | number (n : JsonNumber)
  | string (s : String)
  | array (items : List Json)
  | object (members : List (String × Json))
  deriving Repr, Inhabited

namespace Json

/-! ## Canonical documents -/

/-- A member put into members in order of names, replacing one of the same name. -/
def insertMember (name : String) (doc : Json) : List (String × Json) → List (String × Json)
  | [] => [(name, doc)]
  | (other, d) :: rest =>
      if name = other then (name, doc) :: rest
      else if name < other then (name, doc) :: (other, d) :: rest
      else (other, d) :: insertMember name doc rest

mutual

/-- The document with every object's members in order of names, each name once
with its last document. -/
def canonical : Json → Json
  | .array items => .array (canonicalItems items)
  | .object members => .object (canonicalMembers members [])
  | doc => doc

/-- The items of an array, each canonical. -/
def canonicalItems : List Json → List Json
  | [] => []
  | doc :: rest => canonical doc :: canonicalItems rest

/-- The members of an object put one after the other into those already placed. -/
def canonicalMembers : List (String × Json) → List (String × Json) → List (String × Json)
  | [], placed => placed
  | (name, doc) :: rest, placed => canonicalMembers rest (insertMember name (canonical doc) placed)

end

/-! ## Equality of numbers -/

mutual

/-- Whether two canonical documents are equal when doubles compare as numbers. -/
def same : Json → Json → Bool
  | .null, .null => true
  | .bool a, .bool b => a == b
  | .number (.int a), .number (.int b) => a == b
  | .number (.float a), .number (.float b) => a.ieeeEq b
  | .number (.single a), .number (.single b) => a.ieeeEq b
  | .string a, .string b => a == b
  | .array a, .array b => sameItems a b
  | .object a, .object b => sameMembers a b
  | _, _ => false

/-- Whether two lists of documents are equal item by item. -/
def sameItems : List Json → List Json → Bool
  | [], [] => true
  | a :: as, b :: bs => same a b && sameItems as bs
  | _, _ => false

/-- Whether two lists of members are equal member by member. -/
def sameMembers : List (String × Json) → List (String × Json) → Bool
  | [], [] => true
  | (m, a) :: as, (n, b) :: bs => m == n && same a b && sameMembers as bs
  | _, _ => false

end

/-! ## Text -/

/-- The two hexadecimal digits of a number below 256, in small letters. -/
def hexByte (n : Nat) : List Char := [Nat.digitChar (n / 16), Nat.digitChar (n % 16)]

/-- A character inside a quoted text. -/
def escapeChar (c : Char) : List Char :=
  if c = '"' then ['\\', '"']
  else if c = '\\' then ['\\', '\\']
  else if c = '\x08' then ['\\', 'b']
  else if c = '\t' then ['\\', 't']
  else if c = '\n' then ['\\', 'n']
  else if c = '\x0c' then ['\\', 'f']
  else if c = '\r' then ['\\', 'r']
  else if c.toNat < 0x20 then ['\\', 'u', '0', '0'] ++ hexByte c.toNat
  else [c]

def quote (s : String) : String :=
  String.ofList (['"'] ++ s.toList.flatMap escapeChar ++ ['"'])

/-- The text of a number.  An infinity or a NaN has no number text and is null. -/
def renderNumber : JsonNumber → String
  | .int n => toString n
  | .float x => x.shortestText?.getD "null"
  | .single x => x.shortestText?.getD "null"

def arrayText (items : List String) : String := "[" ++ String.intercalate "," items ++ "]"

def objectText (members : List (String × String)) : String :=
  "\x7b" ++ String.intercalate "," (members.map fun m => quote m.1 ++ ":" ++ m.2) ++ "\x7d"

mutual

/-- A document as text without blanks. -/
def render : Json → String
  | .null => "null"
  | .bool true => "true"
  | .bool false => "false"
  | .number n => renderNumber n
  | .string s => quote s
  | .array items => arrayText (renderItems items)
  | .object members => objectText (renderMembers members)

def renderItems : List Json → List String
  | [] => []
  | doc :: rest => render doc :: renderItems rest

/-- The members of an object with their texts. -/
def renderMembers : List (String × Json) → List (String × String)
  | [] => []
  | (name, doc) :: rest => (name, render doc) :: renderMembers rest

end

end Json

end DataMapper
