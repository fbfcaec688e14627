/-!
# Binary floating-point numbers with 53 significant bits

Exact arithmetic on natural numbers, rounded to the nearest number, a half to the even one.
-/

namespace HttpExchange
namespace Json

/-- The finite number `± significand * 2 ^ exponent`. -/
structure Binary64 where
  negative : Bool
  /-- At most 53 bits, and exactly 53 unless the exponent is least. -/
  significand : Nat
  /-- The power of two, at least -1074. -/
  exponent : Int
  deriving DecidableEq, Repr

namespace Binary64

def zero (negative : Bool) : Binary64 :=
  ⟨negative, 0, -1074⟩

/-- The quotient rounded to the nearest number, a half going to the even one. -/
def nearestQuotient (numerator denominator : Nat) : Nat :=
  let quotient := numerator / denominator
  let twice := 2 * (numerator % denominator)
  if twice < denominator ∨ (twice = denominator ∧ quotient % 2 = 0) then quotient
  else quotient + 1

/-- The pair `(numerator, denominator)` divided by `2 ^ exponent`. -/
def scaleDown (numerator denominator : Nat) (exponent : Int) : Nat × Nat :=
  if 0 ≤ exponent then (numerator, denominator * Nat.pow 2 exponent.toNat)
  else (numerator * Nat.pow 2 (-exponent).toNat, denominator)

/-- The exponent for which a positive quotient has a 53-bit whole part, or the least one. -/
def exponentOf (numerator denominator : Nat) : Int :=
  let guess : Int := (numerator.log2 : Int) - denominator.log2 - 52
  let (scaled, unit) := scaleDown numerator denominator guess
  let exponent := if scaled < unit * Nat.pow 2 52 then guess - 1 else guess
  max exponent (-1074)

/-- The number nearest to a positive quotient, unless it is too large. -/
def ofQuotient? (negative : Bool) (numerator denominator : Nat) : Option Binary64 :=
  let exponent := exponentOf numerator denominator
  let (scaled, unit) := scaleDown numerator denominator exponent
  let significand := nearestQuotient scaled unit
  let (significand, exponent) :=
    if significand = Nat.pow 2 53 then (Nat.pow 2 52, exponent + 1) else (significand, exponent)
  if 971 < exponent then none else some ⟨negative, significand, exponent⟩

/-- The number nearest to `± digits * 10 ^ exponent`, unless it is too large.  The first two tests
settle decimals far outside the range without building their powers of ten. -/
def ofDecimal? (negative : Bool) (digits : Nat) (exponent : Int) : Option Binary64 :=
  if digits = 0 then some (zero negative)
  else if 309 < exponent then none
  else if (digits.log2 : Int) + 1 + 3 * exponent < -1080 then some (zero negative)
  else if 0 ≤ exponent then ofQuotient? negative (digits * Nat.pow 10 exponent.toNat) 1
  else ofQuotient? negative digits (Nat.pow 10 (-exponent).toNat)

/-- The magnitude as a quotient. -/
def toQuotient (x : Binary64) : Nat × Nat :=
  if 0 ≤ x.exponent then (x.significand * Nat.pow 2 x.exponent.toNat, 1)
  else (x.significand, Nat.pow 2 (-x.exponent).toNat)

/-- The product with a magnitude, rounded, unless it is too large. -/
def times? (x y : Binary64) : Option Binary64 :=
  if x.significand * y.significand = 0 then some (zero x.negative)
  else
    let (a, b) := x.toQuotient
    let (c, d) := y.toQuotient
    ofQuotient? x.negative (a * c) (b * d)

/-- The quotient by a positive magnitude, rounded, unless it is too large. -/
def over? (x y : Binary64) : Option Binary64 :=
  if x.significand = 0 then some (zero x.negative)
  else
    let (a, b) := x.toQuotient
    let (c, d) := y.toQuotient
    ofQuotient? x.negative (a * d) (b * c)

/-- The greatest power of ten that is a finite number. -/
def maximalPower : Nat := 308

/-- Scale by a power of ten: one multiplication, or as many divisions as there are powers of ten
that are finite numbers, each rounded. -/
def scale? (x : Binary64) (exponent : Int) : Option Binary64 :=
  if exponent.natAbs ≤ maximalPower then do
    let power ← ofDecimal? false 1 exponent.natAbs
    if 0 ≤ exponent then x.times? power else x.over? power
  else if x.significand = 0 then some x
  else if 0 ≤ exponent then none
  else do
    let power ← ofDecimal? false 1 maximalPower
    let smaller ← x.over? power
    smaller.scale? (exponent + maximalPower)
  termination_by exponent.natAbs
  decreasing_by simp only [maximalPower] at *; omega

def reachesPowerOfTen (numerator denominator : Nat) (power : Int) : Bool :=
  if 0 ≤ power then denominator * Nat.pow 10 power.toNat ≤ numerator
  else denominator ≤ numerator * Nat.pow 10 (-power).toNat

def leadingExponent (numerator denominator : Nat) : Int :=
  let binary : Int := (numerator.log2 : Int) - denominator.log2
  let guess := (binary * 30103).fdiv 100000
  [guess + 1, guess, guess - 1].find? (reachesPowerOfTen numerator denominator) |>.getD (guess - 2)

structure Decimal where
  digits : Nat
  /-- The power of ten of the last digit. -/
  exponent : Int

/-- Drop final zeros, at most `count` of them. -/
def Decimal.trim : Nat → Decimal → Decimal
  | 0, decimal => decimal
  | count + 1, decimal =>
    if decimal.digits % 10 = 0 ∧ decimal.digits ≠ 0 then
      trim count ⟨decimal.digits / 10, decimal.exponent + 1⟩
    else decimal

/-- The two neighbours of a positive quotient among the multiples of `10 ^ exponent`, the nearer
one first, and of two equally near ones the even one first. -/
def neighbours (numerator denominator : Nat) (exponent : Int) : List Decimal :=
  let (scaled, unit) :=
    if 0 ≤ exponent then (numerator, denominator * Nat.pow 10 exponent.toNat)
    else (numerator * Nat.pow 10 (-exponent).toNat, denominator)
  let below := scaled / unit
  if nearestQuotient scaled unit = below then [⟨below, exponent⟩, ⟨below + 1, exponent⟩]
  else [⟨below + 1, exponent⟩, ⟨below, exponent⟩]

/-- The shortest decimal to which a nonzero number is nearest: the coarsest grid with such a
neighbour.  Seventeen digits always suffice. -/
def shortest (x : Binary64) : Decimal :=
  let (numerator, denominator) := x.toQuotient
  let leading := leadingExponent numerator denominator
  let hit (count : Nat) : Option Decimal :=
    (neighbours numerator denominator (leading - count)).find? fun decimal =>
      ofDecimal? x.negative decimal.digits decimal.exponent == some x
  ((List.range 17).findSome? hit |>.getD ⟨0, 0⟩).trim 20

/-- Decimal text: positional with at least one fractional digit when the leading digit stands for
`10 ^ -5` to `10 ^ 15`, scientific with a signed exponent otherwise. -/
def text (x : Binary64) : String :=
  let sign := if x.negative then "-" else ""
  if x.significand = 0 then sign ++ "0.0"
  else
    let decimal := x.shortest
    let digits := (Nat.repr decimal.digits).toList
    let leading := decimal.exponent + digits.length - 1
    let body :=
      if 0 ≤ leading ∧ leading ≤ 15 then
        let whole := leading.toNat + 1
        let fraction := digits.drop whole
        digits.take whole ++ List.replicate (whole - digits.length) '0' ++
          '.' :: (if fraction.isEmpty then ['0'] else fraction)
      else if -5 ≤ leading ∧ leading < 0 then
        '0' :: '.' :: List.replicate ((-leading).toNat - 1) '0' ++ digits
      else
        let fraction := digits.drop 1
        let power := if leading < 0 then '-' :: (Nat.repr (-leading).toNat).toList
          else '+' :: (Nat.repr leading.toNat).toList
        digits.take 1 ++ (if fraction.isEmpty then [] else '.' :: fraction) ++ 'e' :: power
    sign ++ String.ofList body

end Binary64
end Json
end HttpExchange
