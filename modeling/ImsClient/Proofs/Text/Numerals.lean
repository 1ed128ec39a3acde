import ImsClient.Sip.Challenge
import ImsClient.Text.DeltaSeconds
import Mathlib.Algebra.Order.Ring.Nat
import Mathlib.Data.List.TakeWhile

/-!
# Numerals

Numbers are written in decimal digits, in hexadecimal digits without leading zeros, and in
hexadecimal digits of a fixed width. Each of these is read back as the number that was written,
if it fits the width.
-/

namespace ImsClient.Text

/-! ### Decimal digits -/

/-- The digits of a number are digits. -/
theorem all_isDigit_toDigits (n : Nat) : (Nat.toDigits 10 n).all Char.isDigit = true :=
  List.all_eq_true.mpr fun _ hc => Nat.isDigit_of_mem_toDigits (by decide) (by decide) hc

/-- No zero stands before the digits of a number. -/
theorem head?_toDigits_ne {n : Nat} (hn : 0 < n) : (Nat.toDigits 10 n).head? ≠ some '0' := by
  have hdigit : ∀ n < 10, 0 < n → n.digitChar ≠ '0' := by decide
  -- On the number without its last digit.
  induction n using Nat.strongRecOn with
  | ind n ih =>
    by_cases hlt : n < 10
    · rw [Nat.toDigits_of_lt_base hlt]
      exact fun h => hdigit n hlt hn (Option.some.inj h)
    · have hfirst := ih (n / 10) (by omega) (by omega)
      rw [Nat.toDigits_of_base_le (by decide) (by omega)]
      cases hdigits : Nat.toDigits 10 (n / 10) with
      | nil => exact absurd hdigits Nat.toDigits_ne_nil
      | cons c rest => rwa [hdigits] at hfirst

/-- A digit is no white space. -/
theorem isBlank_of_isDigit {c : Char} (hc : c.isDigit = true) : isBlank c = false := by
  have hrange : 48 ≤ c.toNat ∧ c.toNat ≤ 57 := Char.isDigit_iff_toNat.mp hc
  simp only [isBlank, Bool.or_eq_false_iff, Bool.and_eq_false_iff, decide_eq_false_iff_not,
    beq_eq_false_iff_ne]
  omega

/-- A number of seconds is read back from its decimal digits, cut off at the largest one. -/
theorem deltaSeconds?_toString (n : Nat) :
    deltaSeconds? (toString n) = some (min n maxSeconds) := by
  have hdigits : ∀ c ∈ Nat.toDigits 10 n, c.isDigit = true :=
    List.all_eq_true.mp (all_isDigit_toDigits n)
  have htrimmed : trimmed (Nat.toDigits 10 n) = Nat.toDigits 10 n :=
    trimmed_eq_self (fun c hc => isBlank_of_isDigit (hdigits c (List.mem_of_head? hc)))
      fun c hc => isBlank_of_isDigit (hdigits c (List.mem_of_getLast? hc))
  have htaken : (Nat.toDigits 10 n).takeWhile Char.isDigit = Nat.toDigits 10 n :=
    List.takeWhile_eq_self_iff.mpr hdigits
  have hvalue : decimalValue (Nat.toDigits 10 n) = n := Nat.ofDigitChars_ten_toDigits
  unfold deltaSeconds?
  rw [Nat.toString_eq_repr, Nat.toList_repr, htrimmed, htaken]
  split
  · next hnil => exact absurd hnil Nat.toDigits_ne_nil
  · rw [getD_secondsOfDigits?, hvalue]

/-! ### Hexadecimal digits -/

/-- A hexadecimal digit has its value, in both ways of writing it. -/
theorem hexValue?_digitChar :
    ∀ n < 16, hexValue? n.digitChar = some n ∧ hexValue? (hexDigit n) = some n := by
  decide

/-- One more digit at the end. -/
theorem hexadecimal?_concat (digits : List Char) (c : Char) :
    hexadecimal? (digits ++ [c]) =
      (hexadecimal? digits).bind fun value => (hexValue? c).map (16 * value + ·) := by
  simp [hexadecimal?, List.foldlM_append]

/-- A number is read back from its hexadecimal digits. -/
theorem hexadecimal?_toDigits (n : Nat) : hexadecimal? (Nat.toDigits 16 n) = some n := by
  -- On the number without its last digit.
  induction n using Nat.strongRecOn with
  | ind n ih =>
    have hlast := (hexValue?_digitChar (n % 16) (Nat.mod_lt n (by decide))).1
    by_cases hn : n < 16
    · rw [Nat.toDigits_of_lt_base hn]
      simp [hexadecimal?, (hexValue?_digitChar n hn).1]
    · rw [Nat.toDigits_of_base_le (by decide) (by omega), hexadecimal?_concat,
        ih (n / 16) (by omega), hlast]
      simp [Nat.div_add_mod]

/-- So it is from its last digits of a width, if it has no more of them. -/
theorem hexadecimal?_hexPadded {width n : Nat} (h : n < 16 ^ width) :
    hexadecimal? (hexPadded width n) = some n := by
  induction width generalizing n with
  | zero =>
    obtain rfl : n = 0 := by simpa using h
    rfl
  | succ width ih =>
    have hlast := (hexValue?_digitChar (n % 16) (Nat.mod_lt n (by decide))).2
    have hrest : n / 16 < 16 ^ width := by
      rw [Nat.pow_succ] at h
      omega
    rw [hexPadded, hexadecimal?_concat, ih hrest, hlast]
    simp [Nat.div_add_mod]

/-- A number without leading zeros is written in hexadecimal digits only. -/
theorem isLowerHex_of_mem_toDigits {n : Nat} {c : Char} (hc : c ∈ Nat.toDigits 16 n) :
    Sip.isLowerHex c = true := by
  have hdigit : ∀ n < 16, Sip.isLowerHex n.digitChar = true := by decide
  induction n using Nat.strongRecOn with
  | ind n ih =>
    by_cases hn : n < 16
    · rw [Nat.toDigits_of_lt_base hn, List.mem_singleton] at hc
      exact hc ▸ hdigit n hn
    · rw [Nat.toDigits_of_base_le (by decide) (by omega), List.mem_append, List.mem_singleton] at hc
      rcases hc with hc | rfl
      · exact ih (n / 16) (by omega) hc
      · exact hdigit _ (Nat.mod_lt n (by decide))

/-- So is one of a fixed width. -/
theorem isLowerHex_of_mem_hexPadded {width n : Nat} {c : Char} (hc : c ∈ hexPadded width n) :
    Sip.isLowerHex c = true := by
  have hdigit : ∀ n < 16, Sip.isLowerHex (hexDigit n) = true := by decide
  induction width generalizing n with
  | zero => cases hc
  | succ width ih =>
    rw [hexPadded, List.mem_append, List.mem_singleton] at hc
    rcases hc with hc | rfl
    · exact ih hc
    · exact hdigit _ (Nat.mod_lt n (by decide))

end ImsClient.Text
