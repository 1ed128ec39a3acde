import ImsClient.Sip.Grammar
import ImsClient.Text.Blank
import ImsClient.Text.Literal

/-!
# Authentication challenges

A challenge is a scheme with parameters; a header may hold several, between
commas. Of the parameters of a Digest challenge, those that have the form asked
for are understood, and every other one is passed over.
-/

namespace ImsClient.Sip

/-- The algorithm that a challenge asks for. -/
inductive Algorithm where
  | md5
  | md5Sess
  | sha256
  | other (name : String)
deriving DecidableEq, Repr, Inhabited

namespace Algorithm

/-- The algorithm of a name; a name that is unknown becomes upper-case unless it was quoted. -/
def ofName (isQuoted : Bool) (name : String) : Algorithm :=
  if Text.alike name "MD5" then md5
  else if Text.alike name "MD5-sess" then md5Sess
  else if Text.alike name "SHA-256" then sha256
  else other (if isQuoted then name else Text.upper name)

/-- The algorithm in a diagnostic. -/
def diagnostic : Algorithm → String
  | md5 => "Md5"
  | md5Sess => "Md5Sess"
  | sha256 => "Sha256"
  | other name => "Other(" ++ Text.diagnostic name ++ ")"

end Algorithm

inductive DigestParam where
  | realm (value : String)
  | nonce (value : String)
  | opaqueData (value : String)
  | stale (value : Bool)
  | qop (options : List String)
  | algorithm (value : Algorithm)
  /-- A parameter that is not understood. -/
  | other (name value : String)
deriving DecidableEq, Repr, Inhabited

inductive Challenge where
  | digest (params : List DigestParam)
  | other (scheme : String) (params : List (String × String))
deriving DecidableEq, Repr, Inhabited

/-- A hexadecimal digit in lower case. -/
def isLowerHex (c : Char) : Bool := c.isDigit || ('a' ≤ c && c ≤ 'f')

namespace Challenge

/-- Reads a value: a quoted string, without its quotes, or a token. -/
def readValue? (text : List Char) : Option (String × List Char) :=
  match quoted? text with
  | some (inside, rest) => some (String.ofList inside, rest)
  | none => (token? text).map fun (value, rest) => (String.ofList value, rest)

/-- Reads `name=value`. -/
def readParam? (text : List Char) : Option ((String × String) × List Char) := do
  let (name, rest) ← token? text
  let (value, rest) ← readValue? (← separator? '=' rest)
  return ((String.ofList name, value), rest)

/-- Reads elements between commas, at least one of them; a comma that no element follows is left
unread. -/
def readList? {α : Type} (element? : List Char → Option (α × List Char)) (text : List Char) :
    Option (List α × List Char) := do
  let (first, rest) ← element? text
  let (more, after) := readMany (fun t => (separator? ',' t).bind element?) rest.length rest
  return (first :: more, after)

/-- Reads a quoted list: tokens between commas, with no white space around the list. -/
def readOptions? (text : List Char) : Option (List String × List Char) := do
  let (inside, rest) ← quoted? text
  match ← readList? token? inside with
  | (options, []) => return (options.map String.ofList, rest)
  | _ => none

/-- Reads a truth value. -/
def readTruth? : List Char → Option (Bool × List Char) :=
  firstOf?
    [fun text => (word? "true" text).map fun rest => (true, rest),
     fun text => (word? "false" text).map fun rest => (false, rest)]

/-- Reads a count of requests: eight digits, hexadecimal in lower case. -/
def readCount? (text : List Char) : Option (String × List Char) :=
  let digits := text.take 8
  if digits.length = 8 && digits.all isLowerHex then some (String.ofList digits, text.drop 8)
  else none

/-- Reads the name of an algorithm right after its equals sign: a token, or a text between double
quotes of which the next one closes. -/
def readAlgorithm? (text : List Char) : Option (Algorithm × List Char) := do
  match ← word? "algorithm=" text with
  | '"' :: text =>
    let (name, rest) ← Text.splitFirst? '"' text
    return (.ofName true (String.ofList name), rest)
  | text =>
    let (name, rest) ← token? text
    return (.ofName false (String.ofList name), rest)

/-- Reads a parameter of the form asked for, if its name asks for one. The value ends where the form
does, whatever stands there. -/
def readTyped? : List Char → Option (DigestParam × List Char) :=
  firstOf?
    [named? "realm" quoted? fun inside => .realm (String.ofList inside),
     named? "nonce" quoted? fun inside => .nonce (String.ofList inside),
     named? "opaque" quoted? fun inside => .opaqueData (String.ofList inside),
     named? "stale" readTruth? .stale, named? "qop" readOptions? .qop,
     named? "nc" readCount? (.other "nc"),
     fun text => (readAlgorithm? text).map fun (algorithm, rest) => (.algorithm algorithm, rest)]

/-- Reads a parameter of a Digest challenge. -/
def readDigestParam? (text : List Char) : Option (DigestParam × List Char) :=
  match readTyped? text with
  | some found => some found
  | none => (readParam? text).map fun ((name, value), rest) => (.other name value, rest)

/-- Reads a challenge. No `@` may stand anywhere in the text ahead. A Basic challenge has a single
parameter. -/
def read? (text : List Char) : Option (Challenge × List Char) := do
  if text.contains '@' then none
  let (scheme, rest) ← token? text
  let rest ← blanks? rest
  let scheme := String.ofList scheme
  if Text.alike scheme "Digest" then
    let (params, rest) ← readList? readDigestParam? rest
    return (.digest params, rest)
  else if Text.alike scheme "Basic" then
    let (param, rest) ← readParam? rest
    return (.other "Basic" [param], rest)
  else
    let (params, rest) ← readList? readParam? rest
    return (.other scheme params, rest)

/-- The challenges after one that was read, at most `count` of them. A comma at the end of the
text is a mistake; anything else that is no challenge ends the list. -/
def readRest? : Nat → List Char → Option (List Challenge)
  | 0, _ => some []
  | count + 1, text =>
    match separator? ',' text with
    | none => some []
    | some [] => none
    | some more =>
      match read? more with
      | none => some []
      | some (challenge, rest) => (readRest? count rest).map (challenge :: ·)

/-- The challenges of a header, of which there is one at least. The white space between two words
of it counts as one blank. -/
def listOfText? (text : String) : Option (List Challenge) := do
  let (first, rest) ← read? (Text.collapsed text.toList)
  return first :: (← readRest? rest.length rest)

/-- A challenge of another scheme as it is written. -/
def text (scheme : String) (params : List (String × String)) : String :=
  scheme ++ " " ++
    String.intercalate ", " (params.map fun (name, value) => name ++ "=\"" ++ value ++ "\"")

end Challenge

/-- What a registrar tells a client that it let in, of which the next nonce matters here. -/
inductive AuthenticationInfo where
  | nextNonce (value : String)
  | other
deriving DecidableEq, Repr, Inhabited

namespace AuthenticationInfo

/-- Reads a quoted text of hexadecimal digits in lower case. -/
def readProof? (text : List Char) : Option (String × List Char) := do
  let (inside, rest) ← quoted? text
  if inside.all isLowerHex then return (String.ofList inside, rest) else none

/-- Reads one element. -/
def read? : List Char → Option (AuthenticationInfo × List Char) :=
  firstOf?
    [named? "nextnonce" quoted? fun inside => .nextNonce (String.ofList inside),
     named? "qop" token? fun _ => .other, named? "rspauth" readProof? fun _ => .other,
     named? "cnonce" quoted? fun _ => .other, named? "nc" Challenge.readCount? fun _ => .other]

/-- The elements of a header; with anything else in it there are none. -/
def listOfText (text : String) : List AuthenticationInfo :=
  match Challenge.readList? read? (Text.trimmed text.toList) with
  | some (elements, []) => elements
  | _ => []

/-- The next nonce of a header, the first one of several. -/
def nextNonce? (text : String) : Option String :=
  (listOfText text).findSome? fun
    | .nextNonce value => some value
    | .other => none

end AuthenticationInfo

end ImsClient.Sip
