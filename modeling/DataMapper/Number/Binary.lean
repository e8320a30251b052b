/-!
# Binary floating-point numbers

A `Binary64` is the 64-bit word of a double, a `Binary32` the 32-bit word of a
single.  The word is the number: two numbers are the same data when their words
are, so that a NaN is itself and the two zeros differ.  The comparison that a
store makes is `Binary64.ieeeEq`, under which a NaN differs from everything and
the two zeros agree.

A `Format` gives the two field widths, and every operation is written once for
both formats.

* `Format.decode` reads a word as a zero, a finite `m · 2^q`, an infinity or a
  NaN.
* `Format.round` takes an exact quotient of natural numbers and gives the word
  of the nearest number, a tie going to the even significand.  Beyond the
  largest finite number it gives infinity.

Every conversion is one decoding, exact arithmetic on natural numbers and one
rounding: from integers, from decimals, between the formats, product and
quotient.  No operation of the processor is used, so each of them can be
evaluated in a proof.
-/

namespace DataMapper

/-! ## Powers -/

def twoPow (exponent : Nat) : Nat := Nat.pow 2 exponent

def tenPow (exponent : Nat) : Nat := Nat.pow 10 exponent

/-! ## Formats -/

/-- A binary interchange format: a sign bit, an exponent field and a fraction field. -/
structure Format where
  /-- The width of the exponent field. -/
  exponentBits : Nat
  /-- The width of the fraction field. -/
  fractionBits : Nat
  deriving DecidableEq, Repr

namespace Format

def single : Format := ⟨8, 23⟩

def double : Format := ⟨11, 52⟩

/-- The exponent of the unit in the last place of the smallest numbers, negated. -/
def smallest (f : Format) : Nat := twoPow (f.exponentBits - 1) - 2 + f.fractionBits

/-- The word of positive infinity. -/
def infinity (f : Format) : Nat := (twoPow f.exponentBits - 1) * twoPow f.fractionBits

/-- The value of the sign bit. -/
def signWeight (f : Format) : Nat := twoPow (f.exponentBits + f.fractionBits)

/-- The word of the NaN that operations give. -/
def quietNaN (f : Format) : Nat := f.infinity + twoPow (f.fractionBits - 1)

/-- A word with its sign bit set when `negative` holds. -/
def signed (f : Format) (negative : Bool) (magnitude : Nat) : Nat :=
  if negative then f.signWeight + magnitude else magnitude

end Format

/-! ## Reading a word -/

/-- What a word stands for. -/
inductive Magnitude where
  /-- The number `significand · 2^power`, which may be zero. -/
  | finite (significand : Nat) (power : Int)
  | infinite
  | nan
  deriving DecidableEq, Repr

namespace Format

/-- The magnitude of a word, its sign bit aside. -/
def decode (f : Format) (word : Nat) : Magnitude :=
  let body := word % f.signWeight
  let fraction := body % twoPow f.fractionBits
  let exponent := body / twoPow f.fractionBits
  if exponent = twoPow f.exponentBits - 1 then
    if fraction = 0 then .infinite else .nan
  else if exponent = 0 then .finite fraction (-(f.smallest : Int))
  else .finite (twoPow f.fractionBits + fraction) ((exponent : Int) - 1 - f.smallest)

/-- Whether the sign bit of a word is set. -/
def isNegative (f : Format) (word : Nat) : Bool := decide (f.signWeight ≤ word)

end Format

/-! ## Rounding -/

/-- The natural number nearest to a quotient, a tie going to the even one. -/
def roundHalfEven (num den : Nat) : Nat :=
  let quotient := num / den
  let twice := 2 * (num % den)
  if twice < den then quotient
  else if den < twice then quotient + 1
  else if quotient % 2 = 0 then quotient else quotient + 1

/-- The quotient `num / den · 2^-power`, as a numerator and a denominator. -/
def scaleDown (num den : Nat) (power : Int) : Nat × Nat :=
  match power with
  | .ofNat p => (num, den * twoPow p)
  | .negSucc p => (num * twoPow (p + 1), den)

/-- The greatest power of two that is at most `num / den`, for positive arguments. -/
def floorLog2 (num den : Nat) : Int :=
  let guess : Int := (num.log2 : Int) - (den.log2 : Int)
  let (n, d) := scaleDown num den guess
  if n < d then guess - 1 else guess

namespace Format

/-- The word of the positive number nearest to `num / den`. -/
def roundMagnitude (f : Format) (num den : Nat) : Nat :=
  if num = 0 then 0
  else
    let power := max (floorLog2 num den - f.fractionBits) (-(f.smallest : Int))
    let (n, d) := scaleDown num den power
    let word := (power + f.smallest).toNat * twoPow f.fractionBits + roundHalfEven n d
    min word f.infinity

/-- The word of the number nearest to `±num / den`. -/
def round (f : Format) (negative : Bool) (num den : Nat) : Nat :=
  f.signed negative (f.roundMagnitude num den)

/-- The word nearest to `±significand · 2^power`. -/
def ofBinary (f : Format) (negative : Bool) (significand : Nat) (power : Int) : Nat :=
  match power with
  | .ofNat p => f.round negative (significand * twoPow p) 1
  | .negSucc p => f.round negative significand (twoPow (p + 1))

/-- The word nearest to `±digits · 10^power`.  A number whose leading digit lies
beyond the four-hundredth place on either side of the point is infinite or
zero, so no large power is computed for it. -/
def ofDecimal (f : Format) (negative : Bool) (digits : Nat) (power : Int) : Nat :=
  let magnitude : Int := ((Nat.toDigits 10 digits).length : Int) + power
  if digits = 0 then f.signed negative 0
  else if 400 < magnitude then f.signed negative f.infinity
  else if magnitude < -400 then f.signed negative 0
  else match power with
    | .ofNat p => f.round negative (digits * tenPow p) 1
    | .negSucc p => f.round negative digits (tenPow (p + 1))

/-- The number of another format nearest to that of a word. -/
def convert (source target : Format) (word : Nat) : Nat :=
  let negative := source.isNegative word
  match source.decode word with
  | .finite significand power => target.ofBinary negative significand power
  | .infinite => target.signed negative target.infinity
  | .nan => target.quietNaN

end Format

/-! ## Singles and doubles -/

/-- A single, by its word. -/
structure Binary32 where
  bits : UInt32
  deriving DecidableEq, Repr, Inhabited

/-- A double, by its word. -/
structure Binary64 where
  bits : UInt64
  deriving DecidableEq, Repr, Inhabited

namespace Binary32

/-- What the number is. -/
def magnitude (x : Binary32) : Magnitude := Format.single.decode x.bits.toNat

/-- Whether the number is a NaN. -/
def isNaN (x : Binary32) : Bool := x.magnitude = .nan

/-- Equality as a store compares numbers. -/
def ieeeEq (x y : Binary32) : Bool :=
  !x.isNaN && !y.isNaN && (x.bits == y.bits || (x.bits ||| y.bits) == 0x80000000)

/-- The double of the same value. -/
def widen (x : Binary32) : Binary64 :=
  ⟨UInt64.ofNat (Format.convert .single .double x.bits.toNat)⟩

/-- The NaN that operations give. -/
def nan : Binary32 := ⟨UInt32.ofNat Format.single.quietNaN⟩

/-- The single nearest to an integer. -/
def ofInt (n : Int) : Binary32 :=
  ⟨UInt32.ofNat (Format.single.round (decide (n < 0)) n.natAbs 1)⟩

end Binary32

namespace Binary64

/-- What the number is. -/
def magnitude (x : Binary64) : Magnitude := Format.double.decode x.bits.toNat

/-- Whether the sign bit is set. -/
def isNegative (x : Binary64) : Bool := Format.double.isNegative x.bits.toNat

/-- Whether the number is a NaN. -/
def isNaN (x : Binary64) : Bool := x.magnitude = .nan

/-- Equality as a store compares numbers. -/
def ieeeEq (x y : Binary64) : Bool :=
  !x.isNaN && !y.isNaN && (x.bits == y.bits || (x.bits ||| y.bits) == 0x8000000000000000)

/-- The single nearest to the number. -/
def narrow (x : Binary64) : Binary32 :=
  ⟨UInt32.ofNat (Format.convert .double .single x.bits.toNat)⟩

/-- The NaN that operations give. -/
def nan : Binary64 := ⟨UInt64.ofNat Format.double.quietNaN⟩

/-- The infinity of a sign. -/
def infinity (negative : Bool) : Binary64 :=
  ⟨UInt64.ofNat (Format.double.signed negative Format.double.infinity)⟩

/-- The double nearest to an integer. -/
def ofInt (n : Int) : Binary64 :=
  ⟨UInt64.ofNat (Format.double.round (decide (n < 0)) n.natAbs 1)⟩

/-- The double nearest to `±digits · 10^power`. -/
def ofDecimal (negative : Bool) (digits : Nat) (power : Int) : Binary64 :=
  ⟨UInt64.ofNat (Format.double.ofDecimal negative digits power)⟩

/-- The double nearest to the product of a finite double and a finite positive double. -/
def mulPositive (x y : Binary64) : Binary64 :=
  match x.magnitude, y.magnitude with
  | .finite m p, .finite n q =>
      ⟨UInt64.ofNat (Format.double.ofBinary x.isNegative (m * n) (p + q))⟩
  | _, _ => nan

/-- The double nearest to the quotient of a finite double by a finite positive double. -/
def divPositive (x y : Binary64) : Binary64 :=
  match x.magnitude, y.magnitude with
  | .finite m p, .finite n q =>
      let (num, den) := scaleDown m n (q - p)
      ⟨UInt64.ofNat (Format.double.round x.isNegative num den)⟩
  | _, _ => nan

/-- Whether the number is neither an infinity nor a NaN. -/
def isFinite (x : Binary64) : Bool :=
  match x.magnitude with
  | .finite _ _ => true
  | _ => false

end Binary64

/-! ## Checks -/

example : Binary64.ofInt 1 = ⟨0x3ff0000000000000⟩ := by decide +kernel
example : Binary64.ofInt (-3) = ⟨0xc008000000000000⟩ := by decide +kernel
example : (⟨0x3fc00000⟩ : Binary32).widen = ⟨0x3ff8000000000000⟩ := by decide +kernel
example : (⟨0x3fb999999999999a⟩ : Binary64).narrow = ⟨0x3dcccccd⟩ := by decide +kernel
example : (⟨0x47effffff0000000⟩ : Binary64).narrow = ⟨0x7f800000⟩ := by decide +kernel
example : Binary64.nan.isNaN = true ∧ Binary64.nan.ieeeEq Binary64.nan = false := by decide +kernel

end DataMapper
