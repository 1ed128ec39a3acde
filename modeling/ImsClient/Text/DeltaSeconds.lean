import ImsClient.Text.Ascii
import ImsClient.Text.Blank

/-!
# Delta-seconds

A count of seconds at the head of a header value, as in an expiry or in
`120 (maintenance);duration=60`. The digits may be of any number; a value past
the largest 32-bit number counts as that number.
-/

namespace ImsClient.Text

/-- The largest number of seconds that is told apart. -/
def maxSeconds : Nat := 4_294_967_295

/-- A number of seconds with one more digit at its end, unless it is too large to be told apart. -/
def pushDigit? (seconds : Nat) (digit : Char) : Option Nat :=
  let longer := 10 * seconds + (digit.toNat - '0'.toNat)
  if longer ≤ maxSeconds then some longer else none

/-- The seconds that a run of digits writes, read digit by digit, unless they are too many to be
told apart. -/
def secondsOfDigits? (digits : List Char) : Option Nat := digits.foldlM pushDigit? 0

/-- The seconds written at the head of a value, after white space. -/
def deltaSeconds? (value : String) : Option Nat :=
  match (trimmed value.toList).takeWhile Char.isDigit with
  | [] => none
  | digits => some ((secondsOfDigits? digits).getD maxSeconds)

example : deltaSeconds? "120 (maintenance);duration=60" = some 120 := by cbv
example : deltaSeconds? "99999999999" = some maxSeconds ∧ deltaSeconds? "soon" = none := by cbv

/-- Digits that go on from a number give the longer number, unless it is too large. A number that is
too large after some digits is no smaller after the others. -/
theorem foldlM_pushDigit? {start : Nat} (hstart : start ≤ maxSeconds) (digits : List Char) :
    digits.foldlM pushDigit? start =
      if Nat.ofDigitChars 10 digits start ≤ maxSeconds then
        some (Nat.ofDigitChars 10 digits start)
      else none := by
  induction digits generalizing start with
  | nil => simp [hstart]
  | cons digit digits ih =>
    rw [List.foldlM_cons, Nat.ofDigitChars_cons]
    unfold pushDigit?
    dsimp only
    generalize 10 * start + (digit.toNat - '0'.toNat) = longer
    by_cases hlonger : longer ≤ maxSeconds
    · rw [if_pos hlonger]
      exact ih hlonger
    · have hgrows : longer ≤ Nat.ofDigitChars 10 digits longer :=
        calc longer ≤ 10 ^ digits.length * longer :=
              Nat.le_mul_of_pos_left _ (Nat.pow_pos (by decide))
          _ ≤ 10 ^ digits.length * longer + Nat.ofDigitChars 10 digits 0 := Nat.le_add_right _ _
          _ = Nat.ofDigitChars 10 digits longer := Nat.ofDigitChars_eq_ofDigitChars_zero.symm
      rw [if_neg hlonger, if_neg (fun hle => hlonger (Nat.le_trans hgrows hle))]
      rfl

/-- Digits are read as the number they write, or as the largest one if that is larger. -/
theorem getD_secondsOfDigits? (digits : List Char) :
    (secondsOfDigits? digits).getD maxSeconds = min (decimalValue digits) maxSeconds := by
  have hread : secondsOfDigits? digits =
      if decimalValue digits ≤ maxSeconds then some (decimalValue digits) else none :=
    foldlM_pushDigit? (Nat.zero_le _) digits
  rw [hread]
  split
  · next hle => exact (Nat.min_eq_left hle).symm
  · next hlarge => exact (Nat.min_eq_right (Nat.le_of_not_le hlarge)).symm

/-- No larger number of seconds is read. -/
theorem deltaSeconds?_le {value : String} {n : Nat} (h : deltaSeconds? value = some n) :
    n ≤ maxSeconds := by
  unfold deltaSeconds? at h
  split at h
  · cases h
  · cases h
    rw [getD_secondsOfDigits?]
    exact Nat.min_le_right _ _

/-- A delay or lifetime that counts: seconds that are written and positive. -/
def positiveSeconds? (value : String) : Option Nat :=
  (deltaSeconds? value).filter (0 < ·)

/-- Such a number is positive and not larger either. -/
theorem positiveSeconds?_bounds {value : String} {n : Nat} (h : positiveSeconds? value = some n) :
    0 < n ∧ n ≤ maxSeconds := by
  obtain ⟨hread, hpos⟩ := Option.filter_eq_some_iff.mp h
  exact ⟨of_decide_eq_true hpos, deltaSeconds?_le hread⟩

end ImsClient.Text
