import ImsClient.Text.Ascii

/-!
# JSON documents

A document as a tree, and its text without blanks. An integer is told apart from
a number with a fraction or an exponent. A string may hold half of a surrogate
pair, which no text can hold: such a string is part of a document but has no text.
-/

namespace ImsClient

inductive Json where
  | null
  | bool (value : Bool)
  | integer (value : Int)
  /-- A number with a fraction or an exponent, or a negative zero, as it is written. -/
  | decimal (text : String)
  | string (text : Option String)
  | array (items : List Json)
  | object (members : List (Option String × Json))
deriving Inhabited

namespace Json

/-- A string that is text. -/
def ofString (text : String) : Json := string (some text)

/-- An object whose names are text. -/
def ofFields (fields : List (String × Json)) : Json :=
  object (fields.map fun (name, value) => (some name, value))

/-- An optional value; nothing is null. -/
def ofOption {α : Type} (write : α → Json) : Option α → Json
  | some value => write value
  | none => null

/-- A character as it is written between quotes. -/
def escapeChar (c : Char) : List Char :=
  if c = '"' ∨ c = '\\' then ['\\', c]
  else if c = '\n' then ['\\', 'n']
  else if c = '\r' then ['\\', 'r']
  else if c = '\t' then ['\\', 't']
  else if c = '\x08' then ['\\', 'b']
  else if c = '\x0c' then ['\\', 'f']
  else if c.toNat < 0x20 then ['\\', 'u'] ++ Text.hexPadded 4 c.toNat
  else [c]

/-- A string between quotes; one without text becomes a lone surrogate. -/
def stringChars : Option String → List Char
  | some text => '"' :: text.toList.flatMap escapeChar ++ ['"']
  | none => "\"\\ud800\"".toList

/-- Texts with commas between them. -/
def joinComma : List (List Char) → List Char
  | [] => []
  | [last] => last
  | first :: rest => first ++ ',' :: joinComma rest

mutual

/-- The text of a document, as characters. -/
def chars : Json → List Char
  | null => "null".toList
  | bool true => "true".toList
  | bool false => "false".toList
  | integer value => (toString value).toList
  | decimal text => text.toList
  | string text => stringChars text
  | array items => '[' :: joinComma (itemChars items) ++ [']']
  | object members => '\x7b' :: joinComma (memberChars members) ++ ['\x7d']

def itemChars : List Json → List (List Char)
  | [] => []
  | item :: rest => item.chars :: itemChars rest

def memberChars : List (Option String × Json) → List (List Char)
  | [] => []
  | (name, value) :: rest => (stringChars name ++ ':' :: value.chars) :: memberChars rest

end

/-- The text of a document. -/
def text (doc : Json) : String := String.ofList doc.chars

end Json

end ImsClient
