import DataMapper.Number.Binary

/-!
# The shortest decimal of a binary number

Every real number near a finite binary number rounds to it.  These reals form
an interval around the number, with its ends when the significand is even.  Of
the decimals in the interval, `shortest?` gives one with the fewest digits, and
of two such the nearer one.

The search tries one digit, then two, and so on to seventeen.  The decimals
with `n` digits near the number form a grid, and if a point of the grid lies in
the interval then so does one of the two grid points next to the number.  So
each step tests two candidates, in exact arithmetic.

`Layout` says where positional notation ends, and `Layout.render` writes the
digits in it.
-/

namespace DataMapper

/-! ## Digits -/

/-- The exponent of the leading decimal digit of a positive quotient. -/
def floorLog10 (num den : Nat) : Int :=
  if den ≤ num then ((Nat.toDigits 10 (num / den)).length : Int) - 1
  else
    let up := (den + num - 1) / num
    if up ≤ 1 then 0 else -((Nat.toDigits 10 (up - 1)).length : Int)

/-- The reals that round to a number, all three ends over one denominator. -/
structure RoundingInterval where
  low : Nat
  /-- The number itself. -/
  middle : Nat
  high : Nat
  /-- The common denominator. -/
  den : Nat
  /-- Whether the ends belong to the interval. -/
  closed : Bool

namespace RoundingInterval

/-- The interval of `significand · 2^power` in a format. -/
def ofFinite (f : Format) (significand : Nat) (power : Int) : RoundingInterval :=
  let below := if significand = twoPow f.fractionBits ∧ -(f.smallest : Int) < power then 1 else 2
  let (scale, den) : Nat × Nat :=
    match power - 2 with
    | .ofNat p => (twoPow p, 1)
    | .negSucc p => (1, twoPow (p + 1))
  { low := (4 * significand - below) * scale
    middle := 4 * significand * scale
    high := (4 * significand + 2) * scale
    den := den
    closed := significand % 2 = 0 }

/-- Whether the decimal `digits · 10^power` lies in the interval. -/
def holds (i : RoundingInterval) (digits : Nat) (power : Int) : Bool :=
  let (num, unit) : Nat × Nat :=
    match power with
    | .ofNat p => (digits * tenPow p * i.den, 1)
    | .negSucc p => (digits * i.den, tenPow (p + 1))
  if i.closed then decide (i.low * unit ≤ num ∧ num ≤ i.high * unit)
  else decide (i.low * unit < num ∧ num < i.high * unit)

/-- The candidate with the given number of digits, if one lies in the interval. -/
def candidate? (i : RoundingInterval) (length : Nat) : Option (Nat × Int) :=
  let power := floorLog10 i.middle i.den - ((length : Int) - 1)
  let (num, den) : Nat × Nat :=
    match power with
    | .ofNat p => (i.middle, i.den * tenPow p)
    | .negSucc p => (i.middle * tenPow (p + 1), i.den)
  let down := num / den
  let nearer := roundHalfEven num den
  let farther := if nearer = down then down + 1 else down
  if i.holds nearer power then some (nearer, power)
  else if i.holds farther power then some (farther, power)
  else none

end RoundingInterval

/-- A decimal without the zeros that end its digits. -/
def trimZeros : Nat → Nat → Int → Nat × Int
  | 0, digits, power => (digits, power)
  | fuel + 1, digits, power =>
      if digits ≠ 0 ∧ digits % 10 = 0 then trimZeros fuel (digits / 10) (power + 1)
      else (digits, power)

/-- The shortest decimal `digits · 10^power` that rounds to a finite magnitude. -/
def shortest? (f : Format) (significand : Nat) (power : Int) : Option (Nat × Int) :=
  if significand = 0 then none
  else
    let interval := RoundingInterval.ofFinite f significand power
    ((List.range 17).findSome? fun n => interval.candidate? (n + 1)).map
      fun (digits, power) => trimZeros 18 digits power

/-! ## Layout -/

/-- Where positional notation ends.  `point` counts the digits before the point. -/
structure Layout where
  /-- Positional notation holds numbers with at most this many digits before the point. -/
  most : Int
  /-- It holds numbers with more than this many, a negative count being zeros after the point. -/
  least : Int
  deriving DecidableEq, Repr

namespace Layout

def double : Layout := ⟨16, -5⟩

def single : Layout := ⟨13, -6⟩

/-- The text of an exponent, always with a sign. -/
def exponentText (exponent : Int) : String :=
  (if 0 ≤ exponent then "+" else "") ++ toString exponent

/-- The text of `digits · 10^power`: positional with a point and at least one
place, or with one digit before the point and an exponent. -/
def render (l : Layout) (digits : Nat) (power : Int) : String :=
  let text := Nat.toDigits 10 digits
  let length : Int := text.length
  let point := length + power
  let chars :=
    if 0 ≤ power ∧ point ≤ l.most then text ++ List.replicate power.toNat '0' ++ ['.', '0']
    else if 0 < point ∧ point ≤ l.most then
      text.take point.toNat ++ ['.'] ++ text.drop point.toNat
    else if l.least < point ∧ point ≤ 0 then
      ['0', '.'] ++ List.replicate (-point).toNat '0' ++ text
    else
      let tail := if text.length = 1 then [] else '.' :: text.drop 1
      text.take 1 ++ tail ++ 'e' :: (exponentText (point - 1)).toList
  String.ofList chars

end Layout

/-- The shortest text of a number of a format, or nothing for an infinity or a NaN. -/
def Format.shortestText? (f : Format) (l : Layout) (word : Nat) : Option String :=
  let sign := if f.isNegative word then "-" else ""
  match f.decode word with
  | .finite significand power =>
      match shortest? f significand power with
      | some (digits, power) => some (sign ++ l.render digits power)
      | none => some (sign ++ "0.0")
  | _ => none

def Binary64.shortestText? (x : Binary64) : Option String :=
  Format.double.shortestText? .double x.bits.toNat

def Binary32.shortestText? (x : Binary32) : Option String :=
  Format.single.shortestText? .single x.bits.toNat

end DataMapper
