/-!
# Binary fractions of 53 bits

The numbers zero and above that a 64-bit float holds, each as a whole number
times a power of two, and the correctly rounded operations on them. Everything
is exact arithmetic on whole numbers: a result is the ideal value rounded once,
to the nearest number of the format, and to the even neighbour from halfway.
-/

namespace ImsClient.Time

/-- The quotient rounded to the nearest whole number, a half going to the even one. -/
def roundedQuotient (numerator denominator : Nat) : Nat :=
  let whole := numerator / denominator
  let twice := 2 * (numerator % denominator)
  if denominator < twice ∨ (twice = denominator ∧ whole % 2 = 1) then whole + 1 else whole

/-- A quotient without remainder is not changed by rounding. -/
@[simp] theorem roundedQuotient_mul {denominator : Nat} (n : Nat) (h : 0 < denominator) :
    roundedQuotient (n * denominator) denominator = n := by
  have hodd : ¬ (0 = denominator ∧ n % 2 = 1) := fun hzero => Nat.ne_of_gt h hzero.1.symm
  simp [roundedQuotient, h, hodd]

/-- The number `significand * 2 ^ exponent`. -/
structure Binary64 where
  significand : Nat
  exponent : Int
deriving DecidableEq, Repr, Inhabited

namespace Binary64

/-- The least exponent of the format. -/
def leastExponent : Int := -1074

/-- The number as a quotient of two whole numbers. -/
def quotient (x : Binary64) : Nat × Nat :=
  if 0 ≤ x.exponent then (x.significand <<< x.exponent.toNat, 1)
  else (x.significand, 1 <<< (-x.exponent).toNat)

/-- The quotient `numerator / denominator`, cut off, in units of `2 ^ exponent`. -/
def unitsBelow (numerator denominator : Nat) (exponent : Int) : Nat :=
  if 0 ≤ exponent then numerator / (denominator <<< exponent.toNat)
  else (numerator <<< (-exponent).toNat) / denominator

/-- The quotient rounded to a whole number of units of `2 ^ exponent`. -/
def units (numerator denominator : Nat) (exponent : Int) : Nat :=
  if 0 ≤ exponent then roundedQuotient numerator (denominator <<< exponent.toNat)
  else roundedQuotient (numerator <<< (-exponent).toNat) denominator

/-- The exponent at which a quotient has 53 significant bits, or the least one of the format. -/
def exponentFor (numerator denominator : Nat) : Int :=
  let guess : Int := (Nat.log2 numerator : Int) - (Nat.log2 denominator : Int) - 52
  let exact := if unitsBelow numerator denominator guess < 1 <<< 52 then guess - 1 else guess
  max exact leastExponent

/-- The number of the format nearest to a quotient. -/
def nearest (numerator denominator : Nat) : Binary64 :=
  let exponent := exponentFor numerator denominator
  ⟨units numerator denominator exponent, exponent⟩

/-- The sum, rounded once. -/
def add (x y : Binary64) : Binary64 :=
  let (a, b) := x.quotient
  let (c, d) := y.quotient
  nearest (a * d + c * b) (b * d)

/-- The product, rounded once. -/
def mul (x y : Binary64) : Binary64 :=
  let (a, b) := x.quotient
  let (c, d) := y.quotient
  nearest (a * c) (b * d)

end Binary64

/-- A factor given from outside: a number of either sign, an infinity, or no number at all. -/
inductive Factor where
  | number (negative : Bool) (magnitude : Binary64)
  | infinite (negative : Bool)
  | undefined
deriving DecidableEq, Repr, Inhabited

namespace Factor

/-- The factor one. -/
def one : Factor := .number false ⟨1, 0⟩

/-- The factor one half. -/
def half : Factor := .number false ⟨1, -1⟩

/-- The factor nearest to `digits * 10 ^ (-places)`. -/
def ofDecimal (digits : Int) (places : Nat) : Factor :=
  .number (digits < 0) (.nearest digits.natAbs (Nat.pow 10 places))

/-- The factor that is used: a factor that is not a positive number counts as zero. -/
def usable : Factor → Binary64
  | .number false magnitude => magnitude
  | _ => ⟨0, 0⟩

end Factor

end ImsClient.Time
