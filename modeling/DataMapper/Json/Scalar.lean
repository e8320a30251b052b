import DataMapper.Json
import DataMapper.Number.Literal

/-!
# Numbers and texts of JSON

How a number and a quoted text are read off the front of a text.  Both are read
in two steps.  First their form is checked, and what follows them is known.
Then they get a meaning, which a well-formed number or text may lack.

A number without fraction and exponent that fits 64 bits is an integer, but a
negative zero is a double.  Every other number is a double.  Its digits are read
into a 64-bit significand for as long as they fit, the rest counting only by
their place, and the significand is multiplied or divided by a power of ten.
Each of these operations rounds, so the double is not always the nearest one.  A
number beyond the greatest double has no meaning.

A text is a list of characters and of code units given by escapes.  Two units
may stand for one character together.  A text with half of such a pair has no
meaning.
-/

namespace DataMapper.Json

/-! ## Numbers -/

/-- The greatest 64-bit significand. -/
def maxSignificand : Nat := twoPow 64 - 1

/-- A significand with its power of ten. -/
structure Scaled where
  significand : Nat
  /-- The power of ten. -/
  power : Int
  deriving DecidableEq

/-- A significand with one more digit, when that fits. -/
def pushDigit? (significand : Nat) (digit : Char) : Option Nat :=
  let next := 10 * significand + (digit.toNat - '0'.toNat)
  if next ≤ maxSignificand then some next else none

/-- The digits before the point.  From the first that does not fit, each counts
as a place, and the result is no integer. -/
def readWhole (significand : Nat) : List Char → Scaled × Bool
  | [] => (⟨significand, 0⟩, true)
  | d :: ds =>
      match pushDigit? significand d with
      | some next => readWhole next ds
      | none => (⟨significand, (d :: ds).length⟩, false)

/-- The digits after the point.  Those from the first that does not fit are dropped. -/
def readPlaces (s : Scaled) : List Char → Scaled
  | [] => s
  | d :: ds =>
      match pushDigit? s.significand d with
      | some next => readPlaces ⟨next, s.power - 1⟩ ds
      | none => s

/-- A power of ten as a double. -/
def tenTo (n : Nat) : Binary64 := .ofDecimal false 1 n

/-- A double that is a number. -/
def finite? (x : Binary64) : Option Binary64 := if x.isFinite then some x else none

/-- The double of a significand and a power of ten, if the greatest is not exceeded. -/
def scale? (s : Scaled) : Option Binary64 :=
  let x := Binary64.ofInt s.significand
  if s.significand = 0 then some x
  else if 0 ≤ s.power then
    if 308 < s.power then none else finite? (x.mulPositive (tenTo s.power.toNat))
  else if -308 ≤ s.power then some (x.divPositive (tenTo (-s.power).toNat))
  else
    let x := x.divPositive (tenTo 308)
    let power := s.power + 308
    some (if -308 ≤ power then x.divPositive (tenTo (-power).toNat) else .ofInt 0)

/-- A double with its sign bit set when `negative` holds. -/
def withSign (negative : Bool) (x : Binary64) : Binary64 :=
  if negative then ⟨x.bits ||| 0x8000000000000000⟩ else x

/-- The meaning of a number with a fraction or an exponent, or with many digits. -/
def doubleOf? (negative : Bool) (s : Scaled) : Option JsonNumber :=
  (scale? s).map fun x => .float (withSign negative x)

/-- The meaning of a number of digits that fit. -/
def integerOf (negative : Bool) (n : Nat) : JsonNumber :=
  if !negative then .int n
  else if 0 < n ∧ n ≤ twoPow 63 then .int (-n)
  else .float (withSign true (.ofInt n))

/-- The power of ten of an exponent part, if one is well formed. -/
def readExponent? : List Char → Option (Int × List Char)
  | [] => none
  | cs =>
      let (negative, cs) := takeSign cs
      let (digits, rest) := spanDigits cs
      if digits.isEmpty then none
      else
        let power : Int := digitsValue digits
        some (if negative then -power else power, rest)

/-- Whether a character begins an exponent part. -/
def beginsExponent (c : Char) : Bool := c == 'e' || c == 'E'

/-- The digits so far with the exponent part that may follow. -/
def readPower? (s : Scaled) : List Char → Option (Scaled × List Char)
  | [] => some (s, [])
  | c :: rest =>
      if beginsExponent c then
        (readExponent? rest).map fun (e, rest) => (⟨s.significand, s.power + e⟩, rest)
      else some (s, c :: rest)

/-- A number at the front of a text with its meaning, and what follows it. -/
def readNumber? (cs : List Char) : Option (Option JsonNumber × List Char) :=
  let (negative, cs) :=
    match cs with
    | '-' :: rest => (true, rest)
    | rest => (false, rest)
  let (whole, rest) := spanDigits cs
  let (scaled, fits) := readWhole 0 whole
  if whole.isEmpty ∨ (whole.head? = some '0' ∧ 1 < whole.length) then none
  else match rest with
    | '.' :: tail =>
        let (places, rest) := spanDigits tail
        if places.isEmpty then none
        else (readPower? (readPlaces scaled places) rest).map fun (s, rest) =>
          (doubleOf? negative s, rest)
    | rest =>
        if fits && !rest.head?.any beginsExponent then
          some (some (integerOf negative scaled.significand), rest)
        else (readPower? scaled rest).map fun (s, rest) => (doubleOf? negative s, rest)

/-! ## Texts -/

/-- A character of a text, or a code unit given by an escape. -/
inductive TextUnit where
  | char (c : Char)
  | code (unit : Nat)
  deriving DecidableEq, Repr

def hexDigit? (c : Char) : Option Nat :=
  if c.isDigit then some (c.toNat - '0'.toNat)
  else if 'a' ≤ c ∧ c ≤ 'f' then some (c.toNat - 'a'.toNat + 10)
  else if 'A' ≤ c ∧ c ≤ 'F' then some (c.toNat - 'A'.toNat + 10)
  else none

/-- Four hexadecimal digits at the front of a text. -/
def hexUnit? : List Char → Option (Nat × List Char)
  | a :: b :: c :: d :: rest => do
      let a ← hexDigit? a
      let b ← hexDigit? b
      let c ← hexDigit? c
      let d ← hexDigit? d
      some (((a * 16 + b) * 16 + c) * 16 + d, rest)
  | _ => none

/-- The character that a one-letter escape stands for. -/
def simpleEscape? : Char → Option Char
  | '"' => some '"'
  | '\\' => some '\\'
  | '/' => some '/'
  | 'b' => some '\x08'
  | 'f' => some '\x0c'
  | 'n' => some '\n'
  | 'r' => some '\r'
  | 't' => some '\t'
  | _ => none

/-- The units of a quoted text after its opening quote, and what follows the
closing one.  Those read before are collected in reverse. -/
def readUnits? : Nat → List Char → List TextUnit → Option (List TextUnit × List Char)
  | 0, _, _ => none
  | fuel + 1, cs, read =>
      match cs with
      | '"' :: rest => some (read.reverse, rest)
      | '\\' :: 'u' :: rest => do
          let (unit, rest) ← hexUnit? rest
          readUnits? fuel rest (.code unit :: read)
      | '\\' :: e :: rest => do
          let c ← simpleEscape? e
          readUnits? fuel rest (.char c :: read)
      | c :: rest => if c.toNat < 0x20 then none else readUnits? fuel rest (.char c :: read)
      | [] => none

/-- Whether a code unit is the first half of a pair. -/
def isFirstHalf (unit : Nat) : Bool := decide (0xd800 ≤ unit ∧ unit < 0xdc00)

/-- Whether a code unit is the second half of a pair. -/
def isSecondHalf (unit : Nat) : Bool := decide (0xdc00 ≤ unit ∧ unit < 0xe000)

/-- The text of units, after the characters before them in reverse. -/
def textOf? : List TextUnit → List Char → Option String
  | [], read => some (String.ofList read.reverse)
  | .char c :: rest, read => textOf? rest (c :: read)
  | .code unit :: .code next :: rest, read =>
      if isFirstHalf unit then
        if isSecondHalf next then
          textOf? rest (Char.ofNat (0x10000 + (unit - 0xd800) * 0x400 + (next - 0xdc00)) :: read)
        else none
      else if isSecondHalf unit then none
      else textOf? (.code next :: rest) (Char.ofNat unit :: read)
  | .code unit :: rest, read =>
      if isFirstHalf unit || isSecondHalf unit then none
      else textOf? rest (Char.ofNat unit :: read)

/-- The rest of a quoted text after its opening quote with its meaning, and what
follows it. -/
def readString? (cs : List Char) : Option (Option String × List Char) :=
  (readUnits? (cs.length + 1) cs []).map fun (units, rest) => (textOf? units [], rest)

/-! ## Checks -/

example : (readNumber? "1e999,".toList).map (·.2) = some [','] := by decide +kernel
example : readString? "\\ud83d\\ude00\"".toList = some (some "😀", []) := by decide +kernel
example : readString? "\\ud83d\"x".toList = some (none, ['x']) := by decide +kernel

end DataMapper.Json
