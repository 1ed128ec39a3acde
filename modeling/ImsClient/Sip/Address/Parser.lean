import ImsClient.Sip.Address
import ImsClient.Sip.Uri.Parser

/-!
# Reading lists of addresses

An entry of a list is a URI between angle brackets, with a display name before
them and parameters after them. Entries stand between commas, and one mistake
spoils the whole list.
-/

namespace ImsClient.Sip

/-- Reads the value of a parameter: a quoted string, an address or a token. -/
def readValue? (name : String) (text : List Char) : Option (Param × List Char) :=
  match quoted? text with
  | some (inside, rest) => some (.quoted name (String.ofList (unescape inside)), rest)
  | none =>
    match Host.readAddress? text with
    | some (ip, rest) => some (.token name ip.text, rest)
    | none => (token? text).map fun (value, rest) => (.token name (String.ofList value), rest)

/-- Reads `;name` or `;name=value`, with white space wherever it is allowed. -/
def readParam? (text : List Char) : Option (Param × List Char) := do
  let text ← separator? ';' text
  let (name, text) ← token? text
  let name := String.ofList name
  match (separator? '=' text).bind (readValue? name) with
  | some (param, rest) => return (param, rest)
  | none => return (.flag name, text)

namespace Address

/-- Reads words with white space between them, which is kept. -/
def readWords? (text : List Char) : Option (String × List Char) := do
  let (_, rest) ← token? text
  let (_, rest) := readMany (fun t => (blanks? t).bind token?) rest.length rest
  return (String.ofList (readOf text rest), rest)

/-- Reads a display name, if there is one: a quoted string, or words with no white space before
them. -/
def readDisplay (text : List Char) : Option String × List Char :=
  match quoted? text with
  | some (inside, rest) => (some (String.ofList (unescape inside)), skipBlanks rest)
  | none =>
    match readWords? text with
    | some (words, rest) => (some words, skipBlanks rest)
    | none => (none, text)

/-- Reads a URI between angle brackets; text after it, inside the brackets, is dropped. -/
def readBracketed? (text : List Char) : Option (Uri × List Char) := do
  let text ← char? '<' (skipBlanks text)
  let (inside, rest) ← Text.splitFirst? '>' text
  let (uri, _) ← Uri.read? inside
  return (uri, skipBlanks rest)

/-- Reads an entry of a list. -/
def read? (text : List Char) : Option (Address × List Char) := do
  let (display, text) := readDisplay text
  let (uri, text) ← readBracketed? text
  let (params, rest) := readMany readParam? text.length text
  return ({ display, uri, params }, rest)

/-- Reads entries between commas up to the end of a text, at most `count` of them. -/
def readList? : Nat → List Char → Option (List Address)
  | 0, _ => none
  | count + 1, text => do
    let (address, rest) ← read? text
    match separator? ',' rest with
    | some more => return address :: (← readList? count more)
    | none => if rest.isEmpty then return [address] else none

/-- The entries of a list of addresses. -/
def listOfText? (text : String) : Option (List Address) :=
  readList? text.length text.toList

end Address

end ImsClient.Sip
