import DataMapper.Number.Binary

/-!
# Reading a decimal literal as a double

A literal is an optional sign followed by a word for infinity, the word for
NaN, or a decimal.  A decimal has digits, a point with digits, and an exponent.
Digits may be missing on one side of the point but not on both, the point and
the exponent may be missing, and an exponent has at least one digit.  The words
are `inf`, `infinity` and `nan` in any letter case.

The double is the one nearest to the decimal.
-/

namespace DataMapper

/-- The value of a list of decimal digits. -/
def digitsValue (digits : List Char) : Nat :=
  digits.foldl (fun n c => 10 * n + (c.toNat - '0'.toNat)) 0

/-- The longest run of decimal digits at the front, and what follows it. -/
def spanDigits (cs : List Char) : List Char × List Char :=
  (cs.takeWhile Char.isDigit, cs.dropWhile Char.isDigit)

/-- An optional sign at the front: whether it is a minus, and what follows it. -/
def takeSign : List Char → Bool × List Char
  | '-' :: rest => (true, rest)
  | '+' :: rest => (false, rest)
  | rest => (false, rest)

/-- A decimal as its digits without the point and a power of ten. -/
structure DecimalLiteral where
  digits : Nat
  /-- The power of ten. -/
  power : Int
  deriving DecidableEq, Repr

/-- The exponent part that ends a decimal, nothing being exponent zero. -/
def exponent? : List Char → Option Int
  | [] => some 0
  | c :: rest =>
      if c = 'e' ∨ c = 'E' then
        let (negative, rest) := takeSign rest
        let (digits, rest) := spanDigits rest
        if digits.isEmpty ∨ ¬ rest.isEmpty then none
        else some (if negative then -(digitsValue digits : Int) else digitsValue digits)
      else none

/-- An unsigned decimal. -/
def DecimalLiteral.ofChars? (cs : List Char) : Option DecimalLiteral :=
  let (whole, rest) := spanDigits cs
  let (places, rest) :=
    match rest with
    | '.' :: rest => spanDigits rest
    | rest => ([], rest)
  if whole.isEmpty ∧ places.isEmpty then none
  else (exponent? rest).map fun e => ⟨digitsValue (whole ++ places), e - places.length⟩

/-- The double a literal denotes. -/
def Binary64.ofLiteral? (text : String) : Option Binary64 :=
  let (negative, body) := takeSign text.toList
  let word := String.ofList (body.map Char.toLower)
  if word = "inf" ∨ word = "infinity" then some (.infinity negative)
  else if word = "nan" then some .nan
  else (DecimalLiteral.ofChars? body).map fun d => .ofDecimal negative d.digits d.power

end DataMapper
