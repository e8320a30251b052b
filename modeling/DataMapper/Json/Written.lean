import DataMapper.Json.Scalar

/-!
# JSON text

`Json.Written` is a document as it is written.  It keeps the members of an
object in order, repeated names included, so that a caller can refuse them.  It
holds numbers and texts that are well formed and have no meaning, and it nests
to any depth.

`Written.ofText?` reads a whole text, with blanks around the document and around
every mark.  The text is cut into `Token`s, and a `ReadState` takes them one by
one.  What is open around the place where reading stands is a list of `Frame`s.

`Written.document?` gives the document that is meant.  Everything in it has a
meaning, and objects and arrays nest no deeper than `Json.nesting`.  A caller
that knows which members matter can drop the others before, by `Written.only`,
and it does not matter what these hold.
-/

namespace DataMapper.Json

/-! ## Tokens -/

/-- A mark or a document without parts. -/
inductive Token where
  | openArray
  | closeArray
  | openObject
  | closeObject
  | comma
  | colon
  | null
  | bool (b : Bool)
  /-- A number, if it has a meaning. -/
  | number (n : Option JsonNumber)
  /-- A text, if it has a meaning. -/
  | string (s : Option String)
  deriving DecidableEq, Repr

/-- Whether a character is a blank between tokens. -/
def isGap (c : Char) : Bool := c == ' ' || c == '\n' || c == '\t' || c == '\r'

/-- A token at the front of a text, and what follows it. -/
def readToken? : List Char → Option (Token × List Char)
  | '[' :: rest => some (.openArray, rest)
  | ']' :: rest => some (.closeArray, rest)
  | '\x7b' :: rest => some (.openObject, rest)
  | '\x7d' :: rest => some (.closeObject, rest)
  | ',' :: rest => some (.comma, rest)
  | ':' :: rest => some (.colon, rest)
  | 'n' :: 'u' :: 'l' :: 'l' :: rest => some (.null, rest)
  | 't' :: 'r' :: 'u' :: 'e' :: rest => some (.bool true, rest)
  | 'f' :: 'a' :: 'l' :: 's' :: 'e' :: rest => some (.bool false, rest)
  | '"' :: rest => (readString? rest).map fun (s, rest) => (.string s, rest)
  | rest => (readNumber? rest).map fun (n, rest) => (.number n, rest)

/-- The tokens of a text, those before collected in reverse.  Every token takes
at least one character, so more than the length of the text is enough fuel. -/
def tokens? : Nat → List Char → List Token → Option (List Token)
  | 0, _, _ => none
  | fuel + 1, cs, read =>
      match cs.dropWhile isGap with
      | [] => some read.reverse
      | c :: rest => do
          let (token, rest) ← readToken? (c :: rest)
          tokens? fuel rest (token :: read)

/-! ## Documents as they are written -/

/-- A document as it is written. -/
inductive Written where
  | null
  | bool (b : Bool)
  /-- A number, if it has a meaning. -/
  | number (n : Option JsonNumber)
  /-- A text, if it has a meaning. -/
  | string (s : Option String)
  | array (items : List Written)
  /-- A list of named documents, each name a text if it has a meaning. -/
  | object (members : List (Option String × Written))
  deriving Repr, Inhabited

/-- An array or an object whose end was not read yet, what was read in reverse. -/
inductive Frame where
  /-- An array with the items before the present one. -/
  | items (read : List Written)
  /-- An object with the members before the present one, and the name of that. -/
  | members (read : List (Option String × Written)) (name : Option String)

/-- What comes next, with what is open around it, the innermost first. -/
inductive ReadState where
  | value (around : List Frame)
  /-- The first item of an array or its end. -/
  | firstItem (outer : List Frame)
  /-- The first member of an object or its end. -/
  | firstMember (outer : List Frame)
  /-- A member after others. -/
  | member (read : List (Option String × Written)) (outer : List Frame)
  /-- The colon after a name. -/
  | colon (read : List (Option String × Written)) (name : Option String) (outer : List Frame)
  /-- What follows a document. -/
  | after (doc : Written) (around : List Frame)

namespace ReadState

/-- The state after a token where a document has to begin. -/
def begin? (around : List Frame) : Token → Option ReadState
  | .null => some (.after .null around)
  | .bool b => some (.after (.bool b) around)
  | .number n => some (.after (.number n) around)
  | .string s => some (.after (.string s) around)
  | .openArray => some (.firstItem around)
  | .openObject => some (.firstMember around)
  | _ => none

/-- The state after a token, if the token may stand there. -/
def step? : ReadState → Token → Option ReadState
  | value around, token => begin? around token
  | firstItem outer, .closeArray => some (after (.array []) outer)
  | firstItem outer, token => begin? (.items [] :: outer) token
  | firstMember outer, .closeObject => some (after (.object []) outer)
  | firstMember outer, .string name => some (colon [] name outer)
  | member read outer, .string name => some (colon read name outer)
  | colon read name outer, .colon => some (value (.members read name :: outer))
  | after doc (.items read :: outer), .comma => some (value (.items (doc :: read) :: outer))
  | after doc (.items read :: outer), .closeArray =>
      some (after (.array (doc :: read).reverse) outer)
  | after doc (.members read name :: outer), .comma => some (member ((name, doc) :: read) outer)
  | after doc (.members read name :: outer), .closeObject =>
      some (after (.object ((name, doc) :: read).reverse) outer)
  | _, _ => none

/-- The state after tokens. -/
def run? : ReadState → List Token → Option ReadState
  | state, [] => some state
  | state, token :: rest =>
      match state.step? token with
      | some next => run? next rest
      | none => none

/-- The document of a state in which nothing more has to follow. -/
def done? : ReadState → Option Written
  | after doc [] => some doc
  | _ => none

end ReadState

namespace Written

/-- The document that a whole text holds, as it is written. -/
def ofText? (text : String) : Option Written := do
  let tokens ← tokens? (text.length + 1) text.toList []
  (← (ReadState.value []).run? tokens).done?

end Written

/-! ## Documents as they are meant -/

/-- The levels of arrays and objects in a document at most. -/
def nesting : Nat := 127

namespace Written

/-- The document that is meant, with at most so many levels of arrays and objects. -/
def document? : Nat → Written → Option Json
  | _, null => some .null
  | _, bool b => some (.bool b)
  | _, number n => n.map .number
  | _, string s => s.map .string
  | levels + 1, array items => (items.mapM (document? levels)).map .array
  | levels + 1, object members =>
      let member (m : Option String × Written) := do some (← m.1, ← document? levels m.2)
      (members.mapM member).map .object
  | 0, _ => none

/-- An object without the members that have other names.  A member whose name
has no meaning stays. -/
def only (names : List String) : Written → Written
  | object members => object (members.filter fun m => m.1.all names.contains)
  | doc => doc

end Written

/-- The document that a whole text holds, members as they are written. -/
def ofText? (text : String) : Option Json := (Written.ofText? text).bind (Written.document? nesting)

/-- The document of a record with fields of some names that a whole text holds. -/
def recordOfText? (names : List String) (text : String) : Option Json :=
  (Written.ofText? text).bind fun doc => (doc.only names).document? nesting

/-- The canonical document that a whole text holds. -/
def parse? (text : String) : Option Json := (ofText? text).map canonical

/-! ## Checks -/

example : (ofText? "[1,]").isNone ∧ (ofText? "\x7b\"a\"\x7d").isNone := by decide +kernel
example : (ofText? " [ null , \x7b\x7d ] ").map render = some "[null,\x7b\x7d]" := by decide +kernel
example : (ofText? "\x7b\"a\":1e999\x7d").isNone ∧
    ((Written.ofText? "\x7b\"a\":1e999\x7d").map (Written.only [])).isSome := by decide +kernel

end DataMapper.Json
