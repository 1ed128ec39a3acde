import ImsClient.Time.Duration
import Mathlib.Tactic.Ring

/-!
# Whole seconds as 64-bit floats

A duration of whole seconds is a number of the format, and so is its half, as long as the
number of seconds has at most 53 bits. All that is worked out with such durations is
exact: the last bit that is kept is never above the last bit that is needed.
-/

namespace ImsClient

namespace Time.Binary64

/-- The quotient of a number is its significand, with the power of two on one of the sides. -/
theorem quotient_eq (x : Binary64) :
    x.quotient = (x.significand * 2 ^ x.exponent.toNat, 2 ^ (-x.exponent).toNat) := by
  unfold quotient
  split
  · next h =>
    have hnone : (-x.exponent).toNat = 0 := by omega
    rw [hnone, Nat.shiftLeft_eq, Nat.pow_zero]
  · next h =>
    have hnone : x.exponent.toNat = 0 := by omega
    rw [hnone, Nat.shiftLeft_eq, Nat.pow_zero, Nat.mul_one, Nat.one_mul]

/-- A number is `n * 2 ^ e`, and its quotient shows it. -/
def Equals (x : Binary64) (n : Nat) (e : Int) : Prop :=
  ∃ a b : Nat, x.quotient = (n * 2 ^ a, 2 ^ b) ∧ (a : Int) - b = e

/-- A quotient that is a whole number of units is not rounded. -/
theorem units_eq {n a b s : Nat} {e : Int} (h : (a : Int) - b = e + s) :
    unitsBelow (n * 2 ^ a) (2 ^ b) e = n * 2 ^ s ∧ units (n * 2 ^ a) (2 ^ b) e = n * 2 ^ s := by
  unfold unitsBelow units
  split
  · next he =>
    have ha : a = s + (b + e.toNat) := by omega
    have hsplit : n * 2 ^ a = n * 2 ^ s * 2 ^ b <<< e.toNat := by
      rw [ha, Nat.shiftLeft_eq, Nat.pow_add, Nat.pow_add, Nat.mul_assoc]
    have hpos : 0 < 2 ^ b <<< e.toNat := by
      rw [Nat.shiftLeft_eq, ← Nat.pow_add]
      exact Nat.two_pow_pos _
    rw [hsplit]
    exact ⟨Nat.mul_div_cancel _ hpos, roundedQuotient_mul _ hpos⟩
  · next he =>
    have ha : a + (-e).toNat = s + b := by omega
    have hsplit : (n * 2 ^ a) <<< (-e).toNat = n * 2 ^ s * 2 ^ b := by
      rw [Nat.shiftLeft_eq, Nat.mul_assoc, ← Nat.pow_add, ha, Nat.pow_add, Nat.mul_assoc]
    rw [hsplit]
    exact ⟨Nat.mul_div_cancel _ (Nat.two_pow_pos _), roundedQuotient_mul _ (Nat.two_pow_pos _)⟩

variable {n a b : Nat}

/-- Shifted to the left, a number has as many bits more. -/
theorem log2_mul_pow (hpos : 0 < n) : Nat.log2 (n * 2 ^ a) = Nat.log2 n + a := by
  rw [Nat.log2_eq_iff (Nat.mul_pos hpos (Nat.two_pow_pos a)).ne', Nat.pow_add, Nat.add_right_comm,
    Nat.pow_add]
  exact ⟨Nat.mul_le_mul_right _ (Nat.log2_self_le hpos.ne'),
    Nat.mul_lt_mul_of_pos_right Nat.lt_log2_self (Nat.two_pow_pos _)⟩

/-- A number of at most 53 bits, times a power of two that is not too small, is met exactly. -/
theorem equals_nearest {e : Int} (he : (a : Int) - b = e) (hpos : 0 < n) (hbits : n < 2 ^ 53)
    (hsmall : -1022 ≤ e) : (nearest (n * 2 ^ a) (2 ^ b)).Equals n e := by
  have hlog : Nat.log2 n ≤ 52 := Nat.lt_succ_iff.mp ((Nat.log2_lt hpos.ne').mpr hbits)
  -- In these units the number has 53 bits.
  obtain ⟨u, hu⟩ : ∃ u : Int, u = (Nat.log2 n + a : Nat) - b - 52 := ⟨_, rfl⟩
  have hunits := units_eq (n := n) (a := a) (b := b) (s := 52 - Nat.log2 n) (e := u) (by omega)
  have hfull : ¬ n * 2 ^ (52 - Nat.log2 n) < 1 <<< 52 := by
    rw [Nat.not_lt, Nat.shiftLeft_eq, Nat.one_mul]
    calc 2 ^ 52 = 2 ^ Nat.log2 n * 2 ^ (52 - Nat.log2 n) := by rw [← Nat.pow_add]; congr 1; omega
      _ ≤ n * 2 ^ (52 - Nat.log2 n) := Nat.mul_le_mul_right _ (Nat.log2_self_le hpos.ne')
  have hexponent : exponentFor (n * 2 ^ a) (2 ^ b) = u := by
    unfold exponentFor
    rw [log2_mul_pow hpos, Nat.log2_two_pow, ← hu]
    simp only [hunits.1, hfull, if_false, leastExponent]
    omega
  refine ⟨52 - Nat.log2 n + u.toNat, (-u).toNat, ?_, by omega⟩
  rw [quotient_eq]
  simp only [nearest, hexponent, hunits.2, Nat.pow_add, Nat.mul_assoc]

/-- Nothing is met exactly. -/
theorem significand_nearest_zero {denominator : Nat} (hpos : 0 < denominator) :
    (nearest 0 denominator).significand = 0 := by
  have hzero {d : Nat} (hd : 0 < d) : roundedQuotient 0 d = 0 := by
    simpa using roundedQuotient_mul 0 hd
  simp only [nearest, units, Nat.zero_shiftLeft]
  split
  · refine hzero ?_
    rw [Nat.shiftLeft_eq]
    exact Nat.mul_pos hpos (Nat.two_pow_pos _)
  · exact hzero hpos

variable {x y : Binary64} {e f : Int}

/-- To add nothing is exact. -/
theorem Equals.add_zero (hx : x.Equals n e) (hy : y.significand = 0) (hpos : 0 < n)
    (hbits : n < 2 ^ 53) (hsmall : -1022 ≤ e) : (x.add y).Equals n e := by
  obtain ⟨a, b, hquotient, he⟩ := hx
  simp only [add, hquotient, y.quotient_eq, hy, Nat.zero_mul, Nat.add_zero, Nat.mul_assoc,
    ← Nat.pow_add]
  exact equals_nearest (by omega) hpos hbits hsmall

/-- To multiply by a power of two is exact. -/
theorem Equals.mul (hx : x.Equals n e) (hy : y.Equals 1 f) (hpos : 0 < n) (hbits : n < 2 ^ 53)
    (hsmall : -1022 ≤ e + f) : (x.mul y).Equals n (e + f) := by
  obtain ⟨a, b, hquotient, he⟩ := hx
  obtain ⟨c, d, hquotient', hf⟩ := hy
  simp only [Binary64.mul, hquotient, hquotient', Nat.one_mul, Nat.mul_assoc, ← Nat.pow_add]
  exact equals_nearest (by omega) hpos hbits hsmall

end Time.Binary64

namespace Duration

open Time

variable {n : Nat}

/-- Whole seconds are seconds. -/
theorem seconds_ofSeconds (hpos : 0 < n) (hbits : n < 2 ^ 53) :
    (ofSeconds n).seconds.Equals n 0 := by
  have hwhole : (ofSeconds n).wholeSeconds = n := Nat.mul_div_cancel n (by decide)
  have hrest : (ofSeconds n).subsecond = 0 := Nat.mul_mod_left n _
  have hn := Binary64.equals_nearest (a := 0) (b := 0) rfl hpos hbits (by omega)
  rw [Nat.pow_zero, Nat.mul_one] at hn
  unfold seconds
  rw [hwhole, hrest]
  exact hn.add_zero (Binary64.significand_nearest_zero (by decide)) hpos hbits (by omega)

/-- A whole number of nanoseconds is not rounded. -/
theorem ofBinary_of_quotient {x : Binary64} {numerator b k : Nat}
    (hquotient : x.quotient = (numerator, 2 ^ b))
    (hwhole : numerator * 1_000_000_000 = k * 2 ^ b) : ofBinary x = ⟨k⟩ := by
  unfold ofBinary
  rw [hquotient]
  dsimp only
  rw [hwhole, roundedQuotient_mul _ (Nat.two_pow_pos b)]

/-- A duration that is multiplied by one stays as it is. -/
theorem scale_one (hpos : 0 < n) (hbits : n < 2 ^ 53) :
    (ofSeconds n).scale .one = ofSeconds n := by
  obtain ⟨a, b, hquotient, he⟩ :=
    (seconds_ofSeconds hpos hbits).mul (y := ⟨1, 0⟩) (f := 0) ⟨0, 0, rfl, rfl⟩ hpos hbits (by omega)
  obtain rfl : a = b := by omega
  exact ofBinary_of_quotient hquotient (Nat.mul_right_comm _ _ _)

/-- A duration that is multiplied by one half is halved. -/
theorem scale_half (hpos : 0 < n) (hbits : n < 2 ^ 53) :
    (ofSeconds n).scale .half = ⟨n * 500_000_000⟩ := by
  obtain ⟨a, b, hquotient, he⟩ :=
    (seconds_ofSeconds hpos hbits).mul (y := ⟨1, -1⟩) (f := -1) ⟨0, 1, rfl, rfl⟩ hpos hbits
      (by omega)
  obtain rfl : b = a + 1 := by omega
  refine ofBinary_of_quotient hquotient ?_
  rw [Nat.pow_succ]
  ring

end Duration

end ImsClient
