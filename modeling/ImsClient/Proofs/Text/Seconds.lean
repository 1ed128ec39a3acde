import ImsClient.Proofs.Text.Numerals
import ImsClient.Proofs.Text.Runs
import Mathlib.Data.List.Induction
import Mathlib.Data.Nat.Digits.Defs

/-!
# Seconds at the head of a value

A number of seconds stands at the head of a value, after white space, and goes on as far as there
are digits; whatever comes behind them does not count. It is read as the number that the digits
write by their places, or as the largest number of 32 bits if that is larger.
-/

namespace ImsClient.Text

/-! ### What a run of digits writes -/

/-- What a digit counts at the last place. -/
def digitValue (c : Char) : Nat := c.toNat - '0'.toNat

/-- The value of a run of digits is the sum of what they count at their places, each place ten times
the one behind it. -/
theorem decimalValue_eq_ofDigits (digits : List Char) :
    decimalValue digits = Nat.ofDigits 10 (digits.reverse.map digitValue) := by
  induction digits using List.reverseRecOn with
  | nil => rfl
  | append_singleton digits last ih =>
    have hlast : decimalValue (digits ++ [last]) = 10 * decimalValue digits + digitValue last := by
      simp [decimalValue, digitValue]
    rw [hlast, ih, List.reverse_concat, List.map_cons, Nat.ofDigits_cons, Nat.add_comm]

/-! ### The number at the head of a value -/

/-- How a number stands at the head of a value: after white space, in a run of digits that goes on
as far as it can. -/
structure Heading (value : String) where
  blanks : List Char
  digits : List Char
  rest : List Char
  toList_eq : value.toList = blanks ++ (digits ++ rest)
  isBlank_of_mem : ∀ c ∈ blanks, isBlank c = true
  isDigit_of_mem : ∀ c ∈ digits, c.isDigit = true
  digits_ne_nil : digits ≠ []
  /-- The run is the longest one. -/
  isDigit_head_rest : ∀ c, rest.head? = some c → c.isDigit = false

namespace Heading

variable {value : String}

/-- The number that the digits write by their places. -/
def number (heading : Heading value) : Nat :=
  Nat.ofDigits 10 (heading.digits.reverse.map digitValue)

/-- Without the white space around it, the value starts with the digits. -/
theorem trimmed_eq (heading : Heading value) :
    trimmed value.toList = heading.digits ++ trimEnd heading.rest := by
  have hstart : trimStart value.toList = heading.digits ++ heading.rest := by
    rw [trimStart, heading.toList_eq]
    refine dropWhile_run heading.isBlank_of_mem fun c hc => isBlank_of_isDigit ?_
    rw [List.head?_append_of_ne_nil _ heading.digits_ne_nil] at hc
    exact heading.isDigit_of_mem c (List.mem_of_head? hc)
  rw [trimmed, hstart]
  exact trimEnd_append _ fun c hc =>
    isBlank_of_isDigit (heading.isDigit_of_mem c (List.mem_of_getLast? hc))

/-- The digits are all that is read of it. -/
theorem takeWhile_trimmed (heading : Heading value) :
    (trimmed value.toList).takeWhile Char.isDigit = heading.digits := by
  rw [heading.trimmed_eq]
  exact takeWhile_run heading.isDigit_of_mem fun c hc =>
    heading.isDigit_head_rest c (head?_of_head?_trimEnd hc)

/-- The number is read, or the largest one in place of a larger one. -/
theorem deltaSeconds?_eq (heading : Heading value) :
    deltaSeconds? value = some (min heading.number maxSeconds) := by
  unfold deltaSeconds?
  rw [heading.takeWhile_trimmed]
  split
  · next hnil => exact absurd hnil heading.digits_ne_nil
  · rw [getD_secondsOfDigits?, decimalValue_eq_ofDigits]
    rfl

/-- A value that starts with a digit after white space has a number at its head. -/
theorem nonempty_of_head? {c : Char} (hfirst : (trimmed value.toList).head? = some c)
    (hc : c.isDigit = true) : Nonempty (Heading value) := by
  have hstart : (trimStart value.toList).head? = some c := head?_of_head?_trimEnd hfirst
  refine ⟨{
    blanks := value.toList.takeWhile isBlank
    digits := (trimStart value.toList).takeWhile Char.isDigit
    rest := (trimStart value.toList).dropWhile Char.isDigit
    toList_eq := ?_
    isBlank_of_mem := fun c hc => List.mem_takeWhile_imp hc
    isDigit_of_mem := fun c hc => List.mem_takeWhile_imp hc
    digits_ne_nil := ?_
    isDigit_head_rest := ?_ }⟩
  · rw [List.takeWhile_append_dropWhile]
    exact List.takeWhile_append_dropWhile.symm
  · obtain ⟨rest, htext⟩ := List.head?_eq_some_iff.mp hstart
    rw [htext, List.takeWhile_cons_of_pos hc]
    exact List.cons_ne_nil _ _
  · intro d hd
    have hstops := List.head?_dropWhile_not Char.isDigit (trimStart value.toList)
    rwa [hd] at hstops

/-- The same number stands at the head of a value with more behind it, unless that goes on with a
digit. -/
def append (heading : Heading value) {more : String}
    (hmore : ∀ c, more.toList.head? = some c → c.isDigit = false) : Heading (value ++ more) where
  blanks := heading.blanks
  digits := heading.digits
  rest := heading.rest ++ more.toList
  toList_eq := by rw [String.toList_append, heading.toList_eq, List.append_assoc, List.append_assoc]
  isBlank_of_mem := heading.isBlank_of_mem
  isDigit_of_mem := heading.isDigit_of_mem
  digits_ne_nil := heading.digits_ne_nil
  isDigit_head_rest := by
    intro c hc
    rw [List.head?_append, Option.or_eq_some_iff] at hc
    rcases hc with hrest | ⟨-, hfirst⟩
    · exact heading.isDigit_head_rest c hrest
    · exact hmore c hfirst

end Heading

/-! ### What is read -/

variable {value : String}

/-- A value tells so many seconds: the number at its head, or the largest one of 32 bits in place of
a larger one. -/
def Tells (value : String) (seconds : Nat) : Prop :=
  ∃ heading : Heading value, seconds = min heading.number (2 ^ 32 - 1)

/-- Nothing is read of a value that does not start with a digit after white space. -/
theorem deltaSeconds?_of_head?
    (hfirst : ∀ c, (trimmed value.toList).head? = some c → c.isDigit = false) :
    deltaSeconds? value = none := by
  simp only [deltaSeconds?, takeWhile_of_head? hfirst]

/-- Nothing is read of these values only. -/
theorem deltaSeconds?_eq_none_iff (value : String) :
    deltaSeconds? value = none ↔
      ∀ c, (trim value).toList.head? = some c → c.isDigit = false := by
  rw [trim, String.toList_ofList]
  refine ⟨fun hnone c hfirst => ?_, deltaSeconds?_of_head?⟩
  cases hc : c.isDigit with
  | false => rfl
  | true =>
    obtain ⟨heading⟩ := Heading.nonempty_of_head? hfirst hc
    cases hnone.symm.trans heading.deltaSeconds?_eq

/-- What is read of a value is what it tells. -/
theorem deltaSeconds?_eq_some_iff {seconds : Nat} :
    deltaSeconds? value = some seconds ↔ Tells value seconds := by
  constructor
  · intro hread
    by_cases hdigit : ∃ c, (trimmed value.toList).head? = some c ∧ c.isDigit = true
    · obtain ⟨c, hfirst, hc⟩ := hdigit
      obtain ⟨heading⟩ := Heading.nonempty_of_head? hfirst hc
      exact ⟨heading, Option.some.inj (hread.symm.trans heading.deltaSeconds?_eq)⟩
    · have hnone : deltaSeconds? value = none := deltaSeconds?_of_head? fun c hfirst =>
        eq_false_of_ne_true fun hc => hdigit ⟨c, hfirst, hc⟩
      cases hnone.symm.trans hread
  · rintro ⟨heading, rfl⟩
    exact heading.deltaSeconds?_eq

/-- What is read positive of it is what it tells, if that is positive. -/
theorem positiveSeconds?_eq_some_iff {seconds : Nat} :
    positiveSeconds? value = some seconds ↔ Tells value seconds ∧ 0 < seconds := by
  rw [positiveSeconds?, Option.filter_eq_some_iff, deltaSeconds?_eq_some_iff, decide_eq_true_iff]

/-- What stands behind a number does not count, unless it goes on with a digit. -/
theorem deltaSeconds?_append {more : String} (hread : (deltaSeconds? value).isSome = true)
    (hmore : ∀ c, more.toList.head? = some c → c.isDigit = false) :
    deltaSeconds? (value ++ more) = deltaSeconds? value := by
  obtain ⟨seconds, hseconds⟩ := Option.isSome_iff_exists.mp hread
  obtain ⟨heading, -⟩ := deltaSeconds?_eq_some_iff.mp hseconds
  rw [heading.deltaSeconds?_eq, (heading.append hmore).deltaSeconds?_eq]
  rfl

end ImsClient.Text
