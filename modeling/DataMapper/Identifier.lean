import DataMapper.Text.LetterCase

/-!
# Identifiers

An `Identifier` names a table or a column.  An unquoted one is written as it is
and compared without regard to the case of ASCII letters.  A quoted one is
folded and quoted by the dialect and compared exactly.  A quoted identifier
never equals an unquoted one.

That equality is not equality of the data, so it is the Boolean
`Identifier.equiv`.  `Identifier.key` and `Identifier.hashBytes` decide it: two
identifiers are equivalent exactly when their keys are the same, and exactly when
a hash of them reads the same bytes.

A column label of a driver matches an identifier when the names differ at most
in the case of ASCII letters, quoted or not.
-/

namespace DataMapper

/-- The name of a table or a column. -/
structure Identifier where
  /-- The name, without quotes and unfolded. -/
  name : String
  /-- Whether the name is quoted when it is written. -/
  quoted : Bool
  deriving DecidableEq, Repr, Inhabited

namespace Identifier

def unquoted (name : String) : Identifier := ⟨name, false⟩

/-- An identifier that is folded and quoted when it is written. -/
def ofQuoted (name : String) : Identifier := ⟨name, true⟩

/-- Whether two identifiers name the same thing. -/
def equiv (a b : Identifier) : Bool :=
  if a.quoted != b.quoted then false
  else if a.quoted then a.name == b.name
  else Text.sameLabel a.name b.name

/-- What equivalence compares: whether the identifier is quoted, and its
characters, with ASCII capitals made small when it is not. -/
def key (i : Identifier) : Bool × List Char :=
  (i.quoted, if i.quoted then i.name.toList else Text.foldLabel i.name)

def matchesLabel (i : Identifier) (label : String) : Bool := Text.sameLabel i.name label

/-- An ASCII capital byte made small. -/
def lowerByte (b : UInt8) : UInt8 := if 65 ≤ b ∧ b ≤ 90 then b + 32 else b

/-- The bytes a hash of an identifier reads: whether it is quoted, the bytes of
its name, folded when it is not quoted, and an end mark that is no byte of a text. -/
def hashBytes (i : Identifier) : List UInt8 :=
  let bytes := i.name.toUTF8.toList
  (if i.quoted then 1 else 0) :: (if i.quoted then bytes else bytes.map lowerByte) ++ [0xff]

/-- Identifiers are equivalent when their keys are the same. -/
theorem equiv_iff (a b : Identifier) : a.equiv b = true ↔ a.key = b.key := by
  obtain ⟨name, quoted⟩ := a
  obtain ⟨other, otherQuoted⟩ := b
  cases quoted <;> cases otherQuoted <;> simp [equiv, key, Text.sameLabel, String.toList_inj]

end Identifier

/-! ## Writing identifiers -/

/-- The letter case a dialect folds quoted identifiers to. -/
inductive LetterCasing where
  | upper
  | lower
  | asIs
  deriving DecidableEq, Repr

/-- A name folded to a letter case. -/
def LetterCasing.apply : LetterCasing → String → String
  | upper, name => Text.upper name
  | lower, name => Text.lower name
  | asIs, name => name

/-- The characters around a quoted identifier. -/
structure Quoting where
  /-- The character before the name. -/
  opening : Char
  /-- The character after the name, which is doubled inside it. -/
  closing : Char
  deriving DecidableEq, Repr

namespace Quoting

/-- The same character on both sides. -/
def symmetric (quote : Char) : Quoting := ⟨quote, quote⟩

def ansi : Quoting := symmetric '"'

/-- Grave accents. -/
def backtick : Quoting := symmetric '\x60'

def brackets : Quoting := ⟨'[', ']'⟩

/-- A name with every closing character doubled. -/
def escape (q : Quoting) : List Char → List Char
  | [] => []
  | c :: rest => if c = q.closing then c :: c :: q.escape rest else c :: q.escape rest

def apply (q : Quoting) (name : String) : String :=
  String.ofList ([q.opening] ++ q.escape name.toList ++ [q.closing])

/-- The characters up to the first closing character that is not doubled, and
what follows it.  Nothing when there is none. -/
def unescape? (q : Quoting) : List Char → Option (List Char × List Char)
  | [] => none
  | [c] => if c = q.closing then some ([], []) else none
  | c :: d :: rest =>
      if c = q.closing then
        if d = q.closing then (q.unescape? rest).map fun (name, rest) => (c :: name, rest)
        else some ([], d :: rest)
      else (q.unescape? (d :: rest)).map fun (name, rest) => (c :: name, rest)

/-- The name in quotes at the front of a text, and what follows it. -/
def read? (q : Quoting) : List Char → Option (List Char × List Char)
  | c :: rest => if c = q.opening then q.unescape? rest else none
  | [] => none

end Quoting

/-- How a dialect writes quoted identifiers. -/
structure IdentifierProcessing where
  quoting : Quoting
  casing : LetterCasing
  deriving DecidableEq, Repr

namespace IdentifierProcessing

/-- Double quotes and capitals. -/
def ansi : IdentifierProcessing := ⟨.ansi, .upper⟩

/-- A name folded and quoted. -/
def apply (p : IdentifierProcessing) (name : String) : String :=
  p.quoting.apply (p.casing.apply name)

end IdentifierProcessing

def Identifier.toSql (i : Identifier) (p : IdentifierProcessing) : String :=
  if i.quoted then p.apply i.name else i.name

/-! ## Checks -/

example : (Identifier.unquoted "Name").equiv (.unquoted "nAME") = true := by decide
example : (Identifier.ofQuoted "Name").equiv (.unquoted "Name") = false := by decide
example : Quoting.brackets.read? "[a]]b] c".toList = some ("a]b".toList, " c".toList) := by decide

end DataMapper
