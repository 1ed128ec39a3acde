import ImsClient.Json.Basic

/-!
# Reading JSON documents

Documents have the form of RFC 8259 and nothing else: no comma at the end of a
list, no control characters in strings, no leading zeros. Every reader gives the
value ahead with the text after it.
-/

namespace ImsClient.Json

def isSpace (c : Char) : Bool := c = ' ' || c = '\t' || c = '\n' || c = '\r'

def skipSpace (text : List Char) : List Char := text.dropWhile isSpace

/-- The character of a one-letter escape. -/
def escaped? : Char → Option Char
  | '"' => some '"'
  | '\\' => some '\\'
  | '/' => some '/'
  | 'b' => some '\x08'
  | 'f' => some '\x0c'
  | 'n' => some '\n'
  | 'r' => some '\r'
  | 't' => some '\t'
  | _ => none

/-- The number that four hexadecimal digits write. -/
def unit? (a b c d : Char) : Option Nat := do
  let a ← Text.hexValue? a
  let b ← Text.hexValue? b
  let c ← Text.hexValue? c
  let d ← Text.hexValue? d
  return 16 * (16 * (16 * a + b) + c) + d

def isHighHalf (unit : Nat) : Bool := 0xD800 ≤ unit && unit < 0xDC00

def isLowHalf (unit : Nat) : Bool := 0xDC00 ≤ unit && unit < 0xE000

/-- The character of two halves of a surrogate pair. -/
def pairChar (high low : Nat) : Char :=
  Char.ofNat (0x10000 + 1024 * (high - 0xD800) + (low - 0xDC00))

/-- One element of a string: a character, or an escape of 16 bits. -/
inductive StringUnit where
  | char (c : Char)
  | unit (value : Nat)

/-- The elements of a string up to its closing quote, and the text after it. -/
def readUnits? : List Char → Option (List StringUnit × List Char)
  | [] => none
  | '"' :: rest => some ([], rest)
  | '\\' :: 'u' :: a :: b :: c :: d :: rest => do
    let value ← unit? a b c d
    let (units, after) ← readUnits? rest
    return (.unit value :: units, after)
  | '\\' :: c :: rest => do
    let found ← escaped? c
    let (units, after) ← readUnits? rest
    return (.char found :: units, after)
  | c :: rest =>
    if c.toNat < 0x20 || c = '\\' then none
    else (readUnits? rest).map fun (units, after) => (.char c :: units, after)

/-- The text of the elements of a string, if no half of a surrogate pair stands alone. -/
def unitsText? : List StringUnit → Option (List Char)
  | [] => some []
  | .char c :: rest => (unitsText? rest).map (c :: ·)
  | .unit high :: .unit low :: rest =>
    if isHighHalf high then
      if isLowHalf low then (unitsText? rest).map (pairChar high low :: ·) else none
    else if isLowHalf high then none
    else (unitsText? (.unit low :: rest)).map (Char.ofNat high :: ·)
  | .unit value :: rest =>
    if isHighHalf value || isLowHalf value then none
    else (unitsText? rest).map (Char.ofNat value :: ·)

/-- Reads a string after its opening quote. -/
def readString? (text : List Char) : Option (Option String × List Char) := do
  let (units, rest) ← readUnits? text
  return ((unitsText? units).map String.ofList, rest)

/-- Reads a run of digits, at least one of them. -/
def readDigits? (text : List Char) : Option (List Char × List Char) :=
  match text.takeWhile Char.isDigit with
  | [] => none
  | digits => some (digits, text.dropWhile Char.isDigit)

/-- Reads a whole number without leading zeros. -/
def readWhole? : List Char → Option (List Char × List Char)
  | '0' :: rest => some (['0'], rest)
  | text => readDigits? text

/-- Reads a fraction after its point, if there is one. -/
def readFraction? : List Char → Option (List Char × List Char)
  | '.' :: rest => (readDigits? rest).map fun (digits, after) => ('.' :: digits, after)
  | text => some ([], text)

/-- Reads an exponent, if there is one. -/
def readExponent? (text : List Char) : Option (List Char × List Char) :=
  match text with
  | [] => some ([], [])
  | e :: rest =>
    if e = 'e' || e = 'E' then
      match rest with
      | '+' :: digits => (readDigits? digits).map fun (ds, after) => (e :: '+' :: ds, after)
      | '-' :: digits => (readDigits? digits).map fun (ds, after) => (e :: '-' :: ds, after)
      | digits => (readDigits? digits).map fun (ds, after) => (e :: ds, after)
    else some ([], text)

/-- The number of its parts: an integer only without fraction and exponent. -/
def numberOf (negative : Bool) (whole fraction exponent : List Char) : Json :=
  let value := Text.decimalValue whole
  if fraction.isEmpty && exponent.isEmpty && !(negative && value = 0) then
    integer (if negative then -value else value)
  else decimal (String.ofList ((if negative then ['-'] else []) ++ whole ++ fraction ++ exponent))

/-- Reads a number after its sign. -/
def readUnsigned? (negative : Bool) (text : List Char) : Option (Json × List Char) := do
  let (whole, rest) ← readWhole? text
  let (fraction, rest) ← readFraction? rest
  let (exponent, rest) ← readExponent? rest
  return (numberOf negative whole fraction exponent, rest)

/-- Reads a number, `null`, `true` or `false`. -/
def readScalar? : List Char → Option (Json × List Char)
  | 'n' :: 'u' :: 'l' :: 'l' :: rest => some (null, rest)
  | 't' :: 'r' :: 'u' :: 'e' :: rest => some (bool true, rest)
  | 'f' :: 'a' :: 'l' :: 's' :: 'e' :: rest => some (bool false, rest)
  | '-' :: rest => readUnsigned? true rest
  | text => readUnsigned? false text

mutual

/-- Reads a value. The fuel bounds the values inside each other and after each other. -/
def readValue? : Nat → List Char → Option (Json × List Char)
  | 0, _ => none
  | fuel + 1, text =>
    match skipSpace text with
    | '"' :: rest => (readString? rest).map fun (found, after) => (string found, after)
    | '[' :: rest =>
      match skipSpace rest with
      | ']' :: after => some (array [], after)
      | inside => (readItems? fuel inside).map fun (items, after) => (array items, after)
    | '\x7b' :: rest =>
      match skipSpace rest with
      | '\x7d' :: after => some (object [], after)
      | inside => (readMembers? fuel inside).map fun (members, after) => (object members, after)
    | found => readScalar? found

/-- Reads the values of a list up to its closing bracket. -/
def readItems? : Nat → List Char → Option (List Json × List Char)
  | 0, _ => none
  | fuel + 1, text => do
    let (item, rest) ← readValue? fuel text
    match skipSpace rest with
    | ']' :: after => return ([item], after)
    | ',' :: more =>
      let (items, after) ← readItems? fuel more
      return (item :: items, after)
    | _ => none

/-- Reads the members of an object up to its closing brace. -/
def readMembers? : Nat → List Char → Option (List (Option String × Json) × List Char)
  | 0, _ => none
  | fuel + 1, text => do
    match skipSpace text with
    | '"' :: rest =>
      let (name, rest) ← readString? rest
      match skipSpace rest with
      | ':' :: rest =>
        let (value, rest) ← readValue? fuel rest
        match skipSpace rest with
        | '\x7d' :: after => return ([(name, value)], after)
        | ',' :: more =>
          let (members, after) ← readMembers? fuel more
          return ((name, value) :: members, after)
        | _ => none
      | _ => none
    | _ => none

end

/-- Reads a document: one value, with nothing but space around it. -/
def parse? (text : String) : Option Json :=
  let cs := text.toList
  match readValue? (2 * cs.length + 1) cs with
  | some (doc, rest) => if (skipSpace rest).isEmpty then some doc else none
  | none => none

end ImsClient.Json
