import ImsClient.Json.Parser
import ImsClient.Proofs.Text.Numerals
import ImsClient.Proofs.Text.Runs

/-!
# Strings and numbers read back

A string is read back from its escapes up to the quote that closes it, and a number from
its digits up to what can stand after a value.
-/

namespace ImsClient.Json

/-! ### Strings -/

/-- How a character can stand between quotes: as a letter that is short for it, as its number, or as
itself; with what is read there. -/
inductive Stands : Char → List Char → StringUnit → Prop where
  | letter {c l : Char} (hl : l ≠ 'u') (hc : escaped? l = some c) : Stands c ['\\', l] (.char c)
  | number {c : Char} (hc : c.toNat < 0x20) :
      Stands c (['\\', 'u'] ++ Text.hexPadded 4 c.toNat) (.unit c.toNat)
  | plain {c : Char} (hc : ¬c.toNat < 0x20) (hquote : c ≠ '"') (hescape : c ≠ '\\') :
      Stands c [c] (.char c)

/-- As a character is written, it stands. -/
theorem exists_stands_escapeChar (c : Char) : ∃ found, Stands c (escapeChar c) found := by
  unfold escapeChar
  split
  · next hc => rcases hc with rfl | rfl <;> exact ⟨_, .letter (by decide) rfl⟩
  split
  · next hc => exact ⟨_, .letter (by decide) (hc ▸ rfl)⟩
  split
  · next hc => exact ⟨_, .letter (by decide) (hc ▸ rfl)⟩
  split
  · next hc => exact ⟨_, .letter (by decide) (hc ▸ rfl)⟩
  split
  · next hc => exact ⟨_, .letter (by decide) (hc ▸ rfl)⟩
  split
  · next hc => exact ⟨_, .letter (by decide) (hc ▸ rfl)⟩
  split
  · next hc => exact ⟨_, .number hc⟩
  · next hspecial _ _ _ _ _ hc =>
    exact ⟨_, .plain hc (fun h => hspecial (.inl h)) fun h => hspecial (.inr h)⟩

/-- A number of 16 bits is read from its four digits. -/
theorem unit?_hexDigit {n : Nat} (hn : n < 0x10000) :
    unit? (Text.hexDigit (n / 16 / 16 / 16 % 16)) (Text.hexDigit (n / 16 / 16 % 16))
      (Text.hexDigit (n / 16 % 16)) (Text.hexDigit (n % 16)) = some n := by
  have hdigit (m : Nat) : Text.hexValue? (Text.hexDigit (m % 16)) = some (m % 16) :=
    (Text.hexValue?_digitChar _ (Nat.mod_lt m (by decide))).2
  simp only [unit?, hdigit, Option.bind_eq_bind, Option.bind_some, Option.pure_def,
    Option.some.injEq]
  omega

variable {c : Char} {written : List Char} {found : StringUnit}

/-- A character is read as it stands, before what comes after it. -/
theorem Stands.readUnits?_append (h : Stands c written found) (rest : List Char) :
    readUnits? (written ++ rest) =
      (readUnits? rest).map fun (units, after) => (found :: units, after) := by
  cases h with
  | letter hl hc => simp [readUnits?, hl, hc, Option.map_eq_bind]
  | number hc =>
    have hunit := unit?_hexDigit (n := c.toNat) (by omega)
    simp [Text.hexPadded, readUnits?, hunit, Option.map_eq_bind]
  | plain hc hquote hescape =>
    rw [List.singleton_append, readUnits?.eq_def]
    split <;> simp_all

/-- What is read there is that character: a control character is no half of a surrogate pair. -/
theorem Stands.unitsText?_cons (h : Stands c written found) (rest : List StringUnit) :
    unitsText? (found :: rest) = (unitsText? rest).map (c :: ·) := by
  cases h with
  | letter hl hc => rfl
  | number hc =>
    have hhigh : isHighHalf c.toNat = false := by simp [isHighHalf]; omega
    have hlow : isLowHalf c.toNat = false := by simp [isLowHalf]; omega
    rcases rest with _ | ⟨_ | _, rest⟩ <;> simp [unitsText?, hhigh, hlow]
  | plain hc hquote hescape => rfl

/-- A text is read back up to the quote that closes it. -/
theorem readUnits?_flatMap (text rest : List Char) :
    ∃ units, readUnits? (text.flatMap escapeChar ++ '"' :: rest) = some (units, rest) ∧
      unitsText? units = some text := by
  induction text with
  | nil => exact ⟨[], rfl, rfl⟩
  | cons c text ih =>
    obtain ⟨units, hunits, htext⟩ := ih
    obtain ⟨found, hfound⟩ := exists_stands_escapeChar c
    refine ⟨found :: units, ?_, ?_⟩
    · rw [List.flatMap_cons, List.append_assoc, hfound.readUnits?_append, hunits]
      rfl
    · rw [hfound.unitsText?_cons, htext]
      rfl

theorem stringChars_none : stringChars none = ['"', '\\', 'u', 'd', '8', '0', '0', '"'] := rfl

theorem stringChars_some (text : String) :
    stringChars (some text) = '"' :: text.toList.flatMap escapeChar ++ ['"'] := rfl

/-- A string is read back from between its quotes. -/
theorem readString?_stringChars (text : Option String) (rest : List Char) :
    ∃ inside, stringChars text ++ rest = '"' :: inside ∧
      readString? inside = some (text, rest) := by
  cases text with
  | none =>
    have hunit : unit? 'd' '8' '0' '0' = some 0xD800 := by decide
    refine ⟨'\\' :: 'u' :: 'd' :: '8' :: '0' :: '0' :: '"' :: rest,
      congrArg (· ++ rest) stringChars_none, ?_⟩
    simp [readString?, readUnits?, hunit, unitsText?, isHighHalf]
  | some text =>
    obtain ⟨units, hunits, htext⟩ := readUnits?_flatMap text.toList rest
    refine ⟨text.toList.flatMap escapeChar ++ '"' :: rest, by simp [stringChars_some], ?_⟩
    simp [readString?, hunits, htext]

/-! ### Numbers -/

/-- A run of digits, at least one of them. -/
structure IsDigits (digits : List Char) : Prop where
  ne_nil : digits ≠ []
  isDigit : ∀ c ∈ digits, c.isDigit = true

/-- A fraction after its point, or none. -/
inductive IsFraction : List Char → Prop where
  | none : IsFraction []
  | digits {digits : List Char} (h : IsDigits digits) : IsFraction ('.' :: digits)

/-- An exponent after its mark, with a sign or without one, or none. -/
inductive IsExponent : List Char → Prop where
  | none : IsExponent []
  | plain {e : Char} {digits : List Char} (he : e = 'e' ∨ e = 'E') (h : IsDigits digits) :
      IsExponent (e :: digits)
  | signed {e sign : Char} {digits : List Char} (he : e = 'e' ∨ e = 'E')
      (hsign : sign = '+' ∨ sign = '-') (h : IsDigits digits) : IsExponent (e :: sign :: digits)

/-- The parts of a number after its sign. -/
structure IsNumber (w f e : List Char) : Prop where
  whole : IsDigits w
  /-- No zero stands before other digits. -/
  leading : w.head? = some '0' → w = ['0']
  fraction : IsFraction f
  exponent : IsExponent e

/-- The sign of a number. -/
def signChars (negative : Bool) : List Char := if negative then ['-'] else []

/-- A text that ends, or goes on with what can stand after a value. -/
def Ends (text : List Char) : Prop :=
  ∀ c, text.head? = some c → c ∈ [',', ']', '\x7d', ' ', '\t', '\n', '\r']

variable {digits whole fraction exponent rest : List Char}

/-- A digit is no character that is none. -/
theorem ne_of_isDigit {c other : Char} (hc : c.isDigit = true) (hother : other.isDigit = false) :
    c ≠ other := by
  rintro rfl
  rw [hc] at hother
  cases hother

/-- A run of digits starts with one. -/
theorem IsDigits.exists_cons (h : IsDigits digits) :
    ∃ c rest, digits = c :: rest ∧ c.isDigit = true := by
  cases digits with
  | nil => exact absurd rfl h.ne_nil
  | cons c rest => exact ⟨c, rest, rfl, h.isDigit c List.mem_cons_self⟩

/-- A run of digits is read up to where it ends. -/
theorem IsDigits.readDigits?_append (h : IsDigits digits)
    (hrest : ∀ c, rest.head? = some c → c.isDigit = false) :
    readDigits? (digits ++ rest) = some (digits, rest) := by
  obtain ⟨c, others, rfl, -⟩ := h.exists_cons
  rw [readDigits?, Text.takeWhile_run h.isDigit hrest, Text.dropWhile_run h.isDigit hrest]

/-- A whole number is read up to where its digits end. -/
theorem readWhole?_append (h : IsDigits whole) (hleading : whole.head? = some '0' → whole = ['0'])
    (hrest : ∀ c, rest.head? = some c → c.isDigit = false) :
    readWhole? (whole ++ rest) = some (whole, rest) := by
  by_cases hzero : whole.head? = some '0'
  · rw [hleading hzero]
    rfl
  · have hdigits := h.readDigits?_append hrest
    obtain ⟨c, others, rfl, -⟩ := h.exists_cons
    have hc : c ≠ '0' := fun hc => hzero (congrArg some hc)
    rw [← hdigits, List.cons_append, readWhole?]
    intro _ hcons
    exact absurd (List.cons.inj hcons).1 hc

/-- A fraction is read up to where its digits end. -/
theorem IsFraction.readFraction?_append (h : IsFraction fraction)
    (hrest : ∀ c, rest.head? = some c → c.isDigit = false ∧ c ≠ '.') :
    readFraction? (fraction ++ rest) = some (fraction, rest) := by
  cases h with
  | none =>
    cases rest with
    | nil => rfl
    | cons c rest =>
      rw [List.nil_append, readFraction?]
      intro _ hcons
      exact absurd (List.cons.inj hcons).1 (hrest c rfl).2
  | digits h =>
    rw [List.cons_append, readFraction?, h.readDigits?_append fun c hc => (hrest c hc).1]
    rfl

/-- What can stand after a value is no part of a number. -/
theorem Ends.not_number (h : Ends rest) {c : Char} (hc : rest.head? = some c) :
    c.isDigit = false ∧ c ≠ '.' ∧ c ≠ 'e' ∧ c ≠ 'E' := by
  have hends := h c hc
  simp only [List.mem_cons, List.not_mem_nil, or_false] at hends
  rcases hends with rfl | rfl | rfl | rfl | rfl | rfl | rfl <;> decide

/-- An exponent is read where a number ends. -/
theorem IsExponent.readExponent?_append (h : IsExponent exponent) (hrest : Ends rest) :
    readExponent? (exponent ++ rest) = some (exponent, rest) := by
  have hends : ∀ c, rest.head? = some c → c.isDigit = false := fun c hc => (hrest.not_number hc).1
  cases h with
  | none =>
    cases rest with
    | nil => rfl
    | cons c rest =>
      obtain ⟨-, -, he, hE⟩ := hrest.not_number rfl
      simp [readExponent?, he, hE]
  | plain he h =>
    have hdigits := h.readDigits?_append hends
    obtain ⟨c, others, rfl, hc⟩ := h.exists_cons
    have hplus : c ≠ '+' := ne_of_isDigit hc (by decide)
    have hminus : c ≠ '-' := ne_of_isDigit hc (by decide)
    rw [List.cons_append] at hdigits
    rcases he with rfl | rfl <;> simp [readExponent?, hplus, hminus, hdigits]
  | signed he hsign h =>
    have hdigits := h.readDigits?_append hends
    rcases he with rfl | rfl <;> rcases hsign with rfl | rfl <;> simp [readExponent?, hdigits]

/-- An exponent, or what can stand after a value, starts with no digit and no point. -/
theorem IsExponent.head?_append (h : IsExponent exponent) (hrest : Ends rest) {c : Char}
    (hc : (exponent ++ rest).head? = some c) : c.isDigit = false ∧ c ≠ '.' := by
  cases h with
  | none => exact ⟨(hrest.not_number hc).1, (hrest.not_number hc).2.1⟩
  | plain he h =>
    cases hc
    rcases he with rfl | rfl <;> decide
  | signed he hsign h =>
    cases hc
    rcases he with rfl | rfl <;> decide

/-- A number is read after its sign. -/
theorem IsNumber.readUnsigned?_append (h : IsNumber whole fraction exponent) (negative : Bool)
    (hrest : Ends rest) :
    readUnsigned? negative (whole ++ fraction ++ exponent ++ rest) =
      some (numberOf negative whole fraction exponent, rest) := by
  have hafter {c : Char} (hc : (exponent ++ rest).head? = some c) :=
    h.exponent.head?_append hrest hc
  have hwhole : ∀ c, (fraction ++ (exponent ++ rest)).head? = some c → c.isDigit = false := by
    intro c hc
    cases h.fraction with
    | none => exact (hafter hc).1
    | digits => cases hc; decide
  rw [List.append_assoc, List.append_assoc, readUnsigned?,
    readWhole?_append h.whole h.leading hwhole]
  simp only [Option.bind_eq_bind, Option.bind_some, Option.pure_def,
    h.fraction.readFraction?_append fun c hc => hafter hc, h.exponent.readExponent?_append hrest]

/-- A number is read with its sign. -/
theorem IsNumber.readScalar?_append (h : IsNumber whole fraction exponent) (negative : Bool)
    (hrest : Ends rest) :
    readScalar? (signChars negative ++ (whole ++ fraction ++ exponent) ++ rest) =
      some (numberOf negative whole fraction exponent, rest) := by
  have hread := h.readUnsigned?_append negative hrest
  cases negative with
  | true => exact hread
  | false =>
    obtain ⟨c, others, rfl, hc⟩ := h.whole.exists_cons
    rw [← hread]
    simp only [signChars, Bool.false_eq_true, if_false, List.nil_append, List.cons_append]
    rw [readScalar?]
    all_goals
      intro _ hcons
      rw [(List.cons.inj hcons).1] at hc
      exact absurd hc (by decide)

/-- A number starts with a sign or a digit. -/
theorem IsNumber.exists_cons (h : IsNumber whole fraction exponent) (negative : Bool) :
    ∃ c rest, signChars negative ++ (whole ++ fraction ++ exponent) = c :: rest ∧
      (c = '-' ∨ c.isDigit = true) := by
  cases negative with
  | true => exact ⟨'-', _, rfl, .inl rfl⟩
  | false =>
    obtain ⟨c, others, rfl, hc⟩ := h.whole.exists_cons
    exact ⟨c, _, rfl, .inr hc⟩

/-- The digits of a number are a whole number without leading zeros. -/
theorem isNumber_toDigits (n : Nat) : IsNumber (Nat.toDigits 10 n) [] [] where
  whole := ⟨Nat.toDigits_ne_nil, List.all_eq_true.mp (Text.all_isDigit_toDigits n)⟩
  leading := by
    rcases Nat.eq_zero_or_pos n with rfl | hn
    · exact fun _ => rfl
    · exact fun hhead => absurd hhead (Text.head?_toDigits_ne hn)
  fraction := .none
  exponent := .none

/-- A document that is a number, written in the parts that it is read from. -/
def IsNumeral (doc : Json) : Prop :=
  ∃ negative whole fraction exponent, IsNumber whole fraction exponent ∧
    numberOf negative whole fraction exponent = doc ∧
      doc.chars = signChars negative ++ (whole ++ fraction ++ exponent)

/-- An integer is one. -/
theorem isNumeral_integer (value : Int) : IsNumeral (integer value) := by
  have hvalue (n : Nat) : Text.decimalValue (Nat.toDigits 10 n) = n := Nat.ofDigitChars_ten_toDigits
  cases value with
  | ofNat n =>
    refine ⟨false, Nat.toDigits 10 n, [], [], isNumber_toDigits n, ?_, ?_⟩
    · simp [numberOf, hvalue]
    · show (Nat.repr n).toList = _
      simp [signChars]
  | negSucc n =>
    refine ⟨true, Nat.toDigits 10 (n + 1), [], [], isNumber_toDigits (n + 1), ?_, ?_⟩
    · simp [numberOf, hvalue, Int.negSucc_eq]
    · show ("-" ++ Nat.repr (n + 1)).toList = _
      simp [signChars]

/-- So is the text that is kept of another number. -/
theorem isNumeral_decimal {negative : Bool} {text : String} (h : IsNumber whole fraction exponent)
    (htext : numberOf negative whole fraction exponent = decimal text) :
    IsNumeral (decimal text) := by
  refine ⟨negative, whole, fraction, exponent, h, htext, ?_⟩
  unfold numberOf at htext
  dsimp only at htext
  split at htext
  · cases htext
  · rw [chars, ← decimal.inj htext, String.toList_ofList]
    simp only [signChars, List.append_assoc]

end ImsClient.Json
