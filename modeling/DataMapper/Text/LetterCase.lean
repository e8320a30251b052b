import DataMapper.Text.CaseTable

/-!
# Upper and lower case

`upper` and `lower` change the letter case of a whole text by the full Unicode
mappings.  An upper-case form may be longer than the character, as the sharp s
gives two letters.  The lower-case form depends on its surroundings in one
case: a capital sigma that ends a word becomes a final sigma.  It ends a word
when the nearest character before it that is not case-ignorable is cased and
the nearest such character after it is not.

A name in camel case is brought to snake case by an underscore before each
capital that begins a word.  A capital begins a word after a small letter, and
after a capital when a small letter follows it.  The first character has no
underscore before it.  Capitals and small letters are those of Unicode, but only
ASCII capitals are made small.

`asciiLower` changes the 26 ASCII capitals only.  `foldLabel` is the key under
which column labels are compared, so that two labels match when they differ at
most in the case of ASCII letters.
-/

namespace DataMapper.Text

open CaseTable

/-! ## Single characters -/

/-- The upper-case form of a character. -/
def upperChar (c : Char) : List Char :=
  if c.toNat < 128 then [c.toUpper]
  else match upperSpecial.find? fun entry => entry.1 == c.toNat with
    | some entry => entry.2.map Char.ofNat
    | none => [shiftIn upperRuns c]

/-- The lower-case form of a character in no particular place. -/
def lowerChar (c : Char) : List Char :=
  if c.toNat < 128 then [c.toLower]
  else if c.toNat = 0x130 then ['i', Char.ofNat 0x307]
  else [shiftIn lowerRuns c]

/-- Whether a character is an upper-case letter. -/
def isUpper (c : Char) : Bool :=
  if c.toNat < 128 then c.isUpper else inRanges upperRanges c.toNat

/-- Whether a character is a lower-case letter. -/
def isLower (c : Char) : Bool :=
  if c.toNat < 128 then c.isLower else inRanges lowerRanges c.toNat

def isCased (c : Char) : Bool :=
  if c.toNat < 128 then c.isAlpha else inRanges casedRanges c.toNat

/-- Whether a character is passed over when the end of a word is looked for. -/
def isCaseIgnorable (c : Char) : Bool := inRanges ignorableRanges c.toNat

/-! ## Texts -/

/-- Whether the first character that is not case-ignorable is cased. -/
def meetsCased : List Char → Bool
  | [] => false
  | c :: rest => if isCaseIgnorable c then meetsCased rest else isCased c

/-- The lower-case form of what follows `before`, whose characters are given
from the nearest to the farthest. -/
def lowerAfter (before : List Char) : List Char → List Char
  | [] => []
  | c :: rest =>
      (if c.toNat = 0x3a3 then
        [Char.ofNat (if meetsCased before && !meetsCased rest then 0x3c2 else 0x3c3)]
      else lowerChar c) ++ lowerAfter (c :: before) rest

/-- The upper-case form of a text. -/
def upper (text : String) : String := String.ofList (text.toList.flatMap upperChar)

/-- The lower-case form of a text. -/
def lower (text : String) : String := String.ofList (lowerAfter [] text.toList)

/-- A text with its ASCII capitals made small. -/
def asciiLower (text : String) : String := String.ofList (text.toList.map Char.toLower)

/-- The key of a column label: its characters with the ASCII capitals made small. -/
def foldLabel (text : String) : List Char := text.toList.map Char.toLower

/-- Whether two labels differ at most in the case of ASCII letters. -/
def sameLabel (a b : String) : Bool := foldLabel a == foldLabel b

/-! ## Snake case -/

/-- Whether a capital begins a word, given the characters around it. -/
def beginsWord (before next : Option Char) : Bool :=
  before.any isLower || before.any isUpper && next.any isLower

/-- The snake case of characters that follow a character. -/
def snakeCaseFrom : Option Char → List Char → List Char
  | _, [] => []
  | before, c :: rest =>
      (if isUpper c then
        (if beginsWord before rest.head? then ['_', c.toLower] else [c.toLower])
      else [c]) ++ snakeCaseFrom (some c) rest

def snakeCase (name : String) : String := String.ofList (snakeCaseFrom none name.toList)

/-! ## Checks -/

example : upperChar (Char.ofNat 0xdf) = ['S', 'S'] := by decide +kernel
example : lowerChar (Char.ofNat 0xc9) = [Char.ofNat 0xe9] := by decide +kernel
example : lowerAfter [] ['A', Char.ofNat 0x3a3] = ['a', Char.ofNat 0x3c2] := by decide +kernel
example : lowerAfter [] [Char.ofNat 0x3a3, 'A'] = [Char.ofNat 0x3c3, 'a'] := by decide +kernel
example : snakeCase "LegoSet" = "lego_set" := by decide +kernel
example : snakeCase "HTTPRequest" = "http_request" := by decide +kernel
example : snakeCase "UserID" = "user_id" := by decide +kernel

end DataMapper.Text
