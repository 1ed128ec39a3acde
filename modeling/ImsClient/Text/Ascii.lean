/-!
# ASCII text

Case and digits of the ASCII alphabet. Names in SIP are compared without regard
to the case of ASCII letters, and numbers are written in ASCII digits only; a
letter or digit of another alphabet is an ordinary character here.
-/

namespace ImsClient.Text

/-- The text with its ASCII capitals made small. -/
def lower (text : String) : String :=
  String.ofList (text.toList.map Char.toLower)

/-- The text with its small ASCII letters made capital. -/
def upper (text : String) : String :=
  String.ofList (text.toList.map Char.toUpper)

/-- Two texts are alike when they differ at most in the case of ASCII letters. -/
def alike (a b : String) : Bool :=
  a.toList.map Char.toLower == b.toList.map Char.toLower

theorem alike_iff (a b : String) :
    alike a b = true ↔ a.toList.map Char.toLower = b.toList.map Char.toLower := by
  simp [alike]

@[simp] theorem alike_refl (a : String) : alike a a = true := by
  simp [alike]

theorem alike_comm (a b : String) : alike a b = alike b a := by
  rw [Bool.eq_iff_iff, alike_iff, alike_iff]
  exact eq_comm

theorem alike_trans {a b c : String} (hab : alike a b = true) (hbc : alike b c = true) :
    alike a c = true := by
  rw [alike_iff] at *
  exact hab.trans hbc

/-- The number that a run of decimal digits writes. -/
def decimalValue (digits : List Char) : Nat :=
  digits.foldl (fun value digit => 10 * value + (digit.toNat - '0'.toNat)) 0

/-- Reads a number written in decimal digits alone, with any number of leading zeros. -/
def decimal? (text : List Char) : Option Nat :=
  if text.isEmpty || !text.all Char.isDigit then none else some (decimalValue text)

/-- Reads a number written in decimal digits, with a plus before them or not. -/
def signedDecimal? : List Char → Option Nat
  | '+' :: digits => decimal? digits
  | digits => decimal? digits

/-- The value of a hexadecimal digit of either case. -/
def hexValue? (c : Char) : Option Nat :=
  if c.isDigit then some (c.toNat - '0'.toNat)
  else if 'a' ≤ c ∧ c ≤ 'f' then some (c.toNat - 'a'.toNat + 10)
  else if 'A' ≤ c ∧ c ≤ 'F' then some (c.toNat - 'A'.toNat + 10)
  else none

/-- Reads a number written in hexadecimal digits alone; the empty text writes zero. -/
def hexadecimal? (text : List Char) : Option Nat :=
  text.foldlM (fun value c => (hexValue? c).map (16 * value + ·)) 0

/-- A hexadecimal digit in lower case. -/
def hexDigit (n : Nat) : Char :=
  if n < 10 then Char.ofNat ('0'.toNat + n) else Char.ofNat ('a'.toNat + n - 10)

/-- The number in lower-case hexadecimal digits, the last `width` of them. -/
def hexPadded : Nat → Nat → List Char
  | 0, _ => []
  | width + 1, n => hexPadded width (n / 16) ++ [hexDigit (n % 16)]

@[simp] theorem length_hexPadded (width n : Nat) : (hexPadded width n).length = width := by
  induction width generalizing n with
  | zero => rfl
  | succ width ih => simp [hexPadded, ih]

/-- Splits a text at every occurrence of a separator; there is always one piece at least. -/
def splitAt (separator : Char) : List Char → List (List Char)
  | [] => [[]]
  | c :: rest =>
    if c = separator then [] :: splitAt separator rest
    else
      match splitAt separator rest with
      | [] => [[c]]
      | piece :: pieces => (c :: piece) :: pieces

theorem splitAt_ne_nil (separator : Char) (text : List Char) : splitAt separator text ≠ [] := by
  cases text with
  | nil => simp [splitAt]
  | cons c rest =>
    unfold splitAt
    split
    · simp
    · split <;> simp

/-- Splits a text at the first occurrence of a separator, if there is one. -/
def splitFirst? (separator : Char) : List Char → Option (List Char × List Char)
  | [] => none
  | c :: rest =>
    if c = separator then some ([], rest)
    else (splitFirst? separator rest).map fun (before, after) => (c :: before, after)

/-- A split at the first separator loses nothing but that separator. -/
theorem eq_append_of_splitFirst? {separator : Char} {text before after : List Char}
    (h : splitFirst? separator text = some (before, after)) :
    text = before ++ separator :: after := by
  induction text generalizing before with
  | nil => simp [splitFirst?] at h
  | cons c rest ih =>
    by_cases hc : c = separator
    · simp only [splitFirst?, hc, if_true, Option.some.injEq, Prod.mk.injEq] at h
      obtain ⟨rfl, rfl⟩ := h
      simp [hc]
    · simp only [splitFirst?, hc, if_false, Option.map_eq_some_iff] at h
      obtain ⟨⟨b, a⟩, hrest, hpair⟩ := h
      simp only [Prod.mk.injEq] at hpair
      obtain ⟨rfl, rfl⟩ := hpair
      simp [ih hrest]

end ImsClient.Text
