import ImsClient.Time.Binary64

/-!
# Durations

Lengths of time in nanoseconds: reading them in seconds or milliseconds, writing
them for people, and scaling them by a factor as 64-bit floats of seconds do.
-/

namespace ImsClient

/-- A length of time. -/
structure Duration where
  nanoseconds : Nat
deriving DecidableEq, Repr, Inhabited

namespace Duration

/-- No time at all. -/
def zero : Duration := ⟨0⟩

def ofSeconds (n : Nat) : Duration := ⟨n * 1_000_000_000⟩

def ofMilliseconds (n : Nat) : Duration := ⟨n * 1_000_000⟩

/-- The whole seconds of a duration. -/
def wholeSeconds (d : Duration) : Nat := d.nanoseconds / 1_000_000_000

/-- What a duration has beyond its whole seconds, in nanoseconds. -/
def subsecond (d : Duration) : Nat := d.nanoseconds % 1_000_000_000

/-- The whole milliseconds of a duration. -/
def wholeMilliseconds (d : Duration) : Nat := d.nanoseconds / 1_000_000

/-- A fraction of `width` decimal digits without its trailing zeros, point included. -/
def fractionText (width fraction : Nat) : String :=
  let digits := (Nat.toDigits 10 fraction).leftpad width '0'
  let shown := (digits.reverse.dropWhile (· == '0')).reverse
  if shown.isEmpty then "" else "." ++ String.ofList shown

/-- The duration in the largest unit of which it holds one at least, without trailing zeros. -/
def describe (d : Duration) : String :=
  let n := d.nanoseconds
  if 1_000_000_000 ≤ n then
    toString (n / 1_000_000_000) ++ fractionText 9 (n % 1_000_000_000) ++ "s"
  else if 1_000_000 ≤ n then toString (n / 1_000_000) ++ fractionText 6 (n % 1_000_000) ++ "ms"
  else if 1_000 ≤ n then toString (n / 1_000) ++ fractionText 3 (n % 1_000) ++ "µs"
  else toString n ++ "ns"

/-- The seconds of a duration as a 64-bit float: whole seconds and the rest, each rounded, added. -/
def seconds (d : Duration) : Time.Binary64 :=
  (Time.Binary64.nearest d.wholeSeconds 1).add (Time.Binary64.nearest d.subsecond 1_000_000_000)

/-- The duration of a number of seconds, rounded to the nearest nanosecond. -/
def ofBinary (x : Time.Binary64) : Duration :=
  let (numerator, denominator) := x.quotient
  ⟨Time.roundedQuotient (numerator * 1_000_000_000) denominator⟩

/-- The duration times a factor, worked out in 64-bit floats of seconds, however long it gets. -/
def scale (d : Duration) (factor : Time.Factor) : Duration :=
  ofBinary (d.seconds.mul factor.usable)

/-- The most whole seconds that a duration has: they are counted with 64 bits. -/
def maxSeconds : Nat := 18_446_744_073_709_551_615

/-- The duration times a factor, if there is a duration as long. -/
def scale? (d : Duration) (factor : Time.Factor) : Option Duration :=
  let scaled := d.scale factor
  if scaled.wholeSeconds ≤ maxSeconds then some scaled else none

end Duration

end ImsClient
