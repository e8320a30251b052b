/-!
# Expressions in queries

A query may hold expressions, each written as a colon or a question mark, a
hash sign and the expression in braces.  An expression reaches to the first
closing brace, and what looks like the beginning of one but is never closed is
plain text.  Expressions are the successive matches of the pattern
`[:?]#\{[^}]*\}`, which `Pattern.expression` specifies.

`ExpressionQuery.create` replaces the expressions from left to right by
placeholders with names of their own, and keeps them under these names to be
evaluated when values are bound.
-/

namespace DataMapper

/-! ## Pieces of a query -/

/-- How an expression is introduced. -/
inductive ExpressionKind where
  | named
  | positional
  deriving DecidableEq, Repr

/-- The character that introduces an expression. -/
def ExpressionKind.sigil : ExpressionKind → Char
  | named => ':'
  | positional => '?'

/-- A character of a query, or an expression in it. -/
inductive QueryPiece where
  /-- A character that is copied. -/
  | plain (c : Char)
  | expression (kind : ExpressionKind) (body : List Char)
  deriving DecidableEq, Repr

def QueryPiece.chars : QueryPiece → List Char
  | plain c => [c]
  | expression kind body => kind.sigil :: '#' :: '\x7b' :: body ++ ['\x7d']

/-- The kind of expression that a character introduces. -/
def ExpressionKind.ofChar? (c : Char) : Option ExpressionKind :=
  if c = ':' then some named else if c = '?' then some positional else none

/-- The text in braces after a hash sign, up to the first closing brace. -/
def bracedBody? : List Char → Option (List Char)
  | '#' :: '\x7b' :: rest =>
      if rest.contains '\x7d' then some (rest.takeWhile (· ≠ '\x7d')) else none
  | _ => none

/-- The expression that begins with a character. -/
def expressionAt? (c : Char) (rest : List Char) : Option (ExpressionKind × List Char) :=
  match ExpressionKind.ofChar? c, bracedBody? rest with
  | some kind, some body => some (kind, body)
  | _, _ => none

/-- The pieces of a query after some characters that belong to an expression. -/
def queryPieces : Nat → List Char → List QueryPiece
  | _, [] => []
  | skipped + 1, _ :: rest => queryPieces skipped rest
  | 0, c :: rest =>
      match expressionAt? c rest with
      | some (kind, body) => .expression kind body :: queryPieces (body.length + 3) rest
      | none => .plain c :: queryPieces 0 rest

/-! ## Queries with placeholders -/

/-- An expression with the name that stands for it. -/
structure ExpressionBinding where
  name : String
  expression : String
  /-- How it is introduced. -/
  kind : ExpressionKind
  deriving DecidableEq, Repr

/-- A query whose expressions are placeholders, with the expressions. -/
structure ExpressionQuery where
  query : String
  bindings : List ExpressionBinding
  deriving DecidableEq, Repr

/-- The name that stands for the expression at a position. -/
def syntheticName (position : Nat) : String := "__synthetic_" ++ toString position ++ "__"

/-- The characters of pieces with expressions replaced by placeholders, from the
position of the next expression on. -/
def replacePieces : Nat → List QueryPiece → List Char
  | _, [] => []
  | position, .plain c :: rest => c :: replacePieces position rest
  | position, .expression _ _ :: rest =>
      ':' :: (syntheticName position).toList ++ replacePieces (position + 1) rest

/-- The expressions of pieces, from the position of the next one on. -/
def bindingsOf : Nat → List QueryPiece → List ExpressionBinding
  | _, [] => []
  | position, .plain _ :: rest => bindingsOf position rest
  | position, .expression kind body :: rest =>
      ⟨syntheticName position, String.ofList body, kind⟩ :: bindingsOf (position + 1) rest

namespace ExpressionQuery

/-- A query with its expressions replaced. -/
def create (query : String) : ExpressionQuery :=
  let pieces := queryPieces 0 query.toList
  ⟨String.ofList (replacePieces 0 pieces), bindingsOf 0 pieces⟩

def hasBindings (q : ExpressionQuery) : Bool := !q.bindings.isEmpty

/-! ## Checks -/

example : (create "a = :#\x7bx\x7d AND ?#\x7by").query = "a = :__synthetic_0__ AND ?#\x7by" := by
  decide +kernel
example : (create "?#\x7b\x7d").bindings = [⟨"__synthetic_0__", "", .positional⟩] := by
  decide +kernel

end ExpressionQuery

end DataMapper
