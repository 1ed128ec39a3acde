import ImsClient.Text.Combining
import ImsClient.Text.Invisible

/-!
# Texts in diagnostics

A diagnostic shows a text between double quotes. Quotes, backslashes and line
ends get a backslash; a character that printing would hide, or join to the one
before it, is shown by its code point.
-/

namespace ImsClient.Text

/-- A character by its code point. -/
def codePointText (c : Char) : List Char :=
  ['\\', 'u', '\x7b'] ++ Nat.toDigits 16 c.toNat ++ ['\x7d']

/-- A character as it stands between the quotes of a diagnostic. -/
def diagnosticChar (c : Char) : List Char :=
  if c = '"' ∨ c = '\\' then ['\\', c]
  else if c = '\n' then ['\\', 'n']
  else if c = '\r' then ['\\', 'r']
  else if c = '\t' then ['\\', 't']
  else if c.toNat = 0 then ['\\', '0']
  else if isCombining c || isInvisible c then codePointText c
  else [c]

/-- A text as a diagnostic shows it, quotes included. -/
def diagnostic (text : String) : String :=
  "\"" ++ String.ofList (text.toList.flatMap diagnosticChar) ++ "\""

/-- An optional value as a diagnostic shows it. -/
def diagnosticOption (value : Option String) : String :=
  match value with
  | none => "None"
  | some shown => "Some(" ++ shown ++ ")"

/-- A list as a diagnostic shows it. -/
def diagnosticList (items : List String) : String :=
  "[" ++ String.intercalate ", " items ++ "]"

/-- A record as a diagnostic shows it: its name, then its fields in order. -/
def diagnosticRecord (name : String) (fields : List (String × String)) : String :=
  name ++ " \x7b " ++
    String.intercalate ", " (fields.map fun (field, shown) => field ++ ": " ++ shown) ++ " \x7d"

end ImsClient.Text
