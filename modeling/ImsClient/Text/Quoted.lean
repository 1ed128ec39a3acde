import ImsClient.Text.Blank

/-!
# Quotes

A quoted value is written between double quotes, with a backslash before every
quote and backslash of its own. Reading a parameter takes off one pair of quotes,
if the value, trimmed, has one, and leaves what stands between as it is.
-/

namespace ImsClient.Text

/-- Writes a backslash before every double quote and backslash. -/
def escape : List Char → List Char
  | [] => []
  | c :: rest =>
    if c = '"' ∨ c = '\\' then '\\' :: c :: escape rest else c :: escape rest

/-- A value between double quotes, its own quotes and backslashes escaped. -/
def quote (value : String) : String :=
  "\"" ++ String.ofList (escape value.toList) ++ "\""

/-- Writes a backslash before every double quote, and nothing before a backslash. -/
def escapeQuotes : List Char → List Char
  | [] => []
  | c :: rest => if c = '"' then '\\' :: c :: escapeQuotes rest else c :: escapeQuotes rest

/-- Takes off the pair of double quotes around a trimmed value, if it has one. -/
def stripQuotes (value : List Char) : List Char :=
  match trimmed value with
  | '"' :: rest =>
    match rest.getLast? with
    | some '"' => rest.dropLast
    | _ => '"' :: rest
  | bare => bare

/-- The value of a parameter without white space and quotes around it. -/
def unquote (value : String) : String :=
  String.ofList (stripQuotes value.toList)

example : unquote " \"a b\" " = "a b" ∧ unquote "\"a" = "\"a" ∧ unquote "\"" = "\"" := by cbv

end ImsClient.Text
