import ImsClient.Sip.Uri

/-!
# Reading URIs

A URI is read from the front of a text and gives what follows it; where a URI
stands alone, nothing may follow.
-/

namespace ImsClient.Sip

namespace Host

/-- A label of a domain name: letters, digits and inner hyphens. -/
def isLabel (label : List Char) : Bool :=
  !label.isEmpty && label.all (fun c => isAlphanumeric c || c = '-') &&
    label.head? != some '-' && label.getLast? != some '-'

/-- A text that starts with a label, which goes as far as letters, digits and hyphens do. -/
def startsWithLabel (text : List Char) : Bool :=
  isLabel (text.takeWhile fun c => isAlphanumeric c || c = '-')

/-- Reads four octets between dots, whatever follows them. -/
def readQuad? (text : List Char) : Option (List UInt8 × List Char) := do
  let (_, rest) ← shortDigits? text
  let (_, rest) ← shortDigits? (← char? '.' rest)
  let (_, rest) ← shortDigits? (← char? '.' rest)
  let (_, rest) ← shortDigits? (← char? '.' rest)
  return (← IpAddress.dottedQuad? (readOf text rest), rest)

/-- Reads an address: a dotted quad, or one of any kind in brackets. -/
def readAddress? : List Char → Option (IpAddress × List Char)
  | '[' :: rest => do
    let (inside, after) ← Text.splitFirst? ']' rest
    return (← IpAddress.ofChars? inside, after)
  | text => (readQuad? text).map fun (octets, rest) => (.v4 octets, rest)

/-- Reads a name up to a port, parameters or headers. A name with dots has labels between them; a
dot after the last one is dropped, or left unread where the text ends with it. A name without dots
is any text that starts with a label and has no underscore. -/
def readName? (text : List Char) : Option (String × List Char) :=
  let isMember := fun c => c ≠ ':' && c ≠ ';' && c ≠ '?'
  let name := text.takeWhile isMember
  let after := text.dropWhile isMember
  if name.contains '.' then
    let isDotted := name.getLast? = some '.'
    let labels := if isDotted then name.dropLast else name
    let rest := if isDotted && after.isEmpty then ['.'] else after
    if (Text.splitAt '.' labels).all isLabel then some (String.ofList labels, rest) else none
  else if startsWithLabel name && !name.contains '_' then some (String.ofList name, after)
  else none

/-- Reads a host. -/
def read? (text : List Char) : Option (Host × List Char) :=
  match readAddress? text with
  | some (ip, rest) => some (.address ip, rest)
  | none => (readName? text).map fun (name, rest) => (.domain name, rest)

end Host

namespace UserInfo

def isUserChar (c : Char) : Bool := isUnreserved c || "&=+$,;?/".toList.contains c

def isPasswordChar (c : Char) : Bool := isUnreserved c || "&=+$,".toList.contains c

/-- The text that a whole run of members of a class and `%`-escapes stands for. -/
def decode? (isMember : Char → Bool) (text : List Char) : Option String :=
  match escapedRun isMember text with
  | (member, []) => percentDecode? member
  | _ => none

/-- The user before a colon, if there is a colon, and the password after it. A user between square
brackets may have colons of its own. -/
def ofChars? (text : List Char) : Option UserInfo :=
  if text.head? = some '[' && text.getLast? = some ']' then some ⟨String.ofList text, none⟩
  else
    match Text.splitFirst? ':' text with
    | none => do
      if text.isEmpty then none
      return ⟨← decode? isUserChar text, none⟩
    | some (user, password) => do
      if user.isEmpty then none
      return ⟨← decode? isUserChar user, some (← decode? isPasswordChar password)⟩

/-- The user information before the first `@`, if that part is one, and the text after it. -/
def read (text : List Char) : Option UserInfo × List Char :=
  match Text.splitFirst? '@' text with
  | none => (none, text)
  | some (before, after) =>
    match ofChars? before with
    | some info => (some info, after)
    | none => (none, text)

end UserInfo

namespace Uri

def isParamChar (c : Char) : Bool := isUnreserved c || "[]/:&+$".toList.contains c

def isHeaderChar (c : Char) : Bool := isUnreserved c || "[]/?:+$".toList.contains c

/-- Reads a number of one to three digits that fits an octet. -/
def readLifetime? (text : List Char) : Option (Nat × List Char) := do
  let (digits, rest) ← shortDigits? text
  let value := Text.decimalValue digits
  if 255 < value then none
  return (value, rest)

/-- Reads a host, which is kept as it is written. -/
def readPlace? (text : List Char) : Option (String × List Char) :=
  (Host.read? text).map fun (_, rest) => (String.ofList (readOf text rest), rest)

/-- A parameter whose value is a token. -/
def tokenParam (name : String) (value : List Char) : Param := .token name (String.ofList value)

/-- Reads a parameter that has a meaning in every URI; its name is written in lower case, and its
value as it stands. -/
def readKnownParam? : List Char → Option (Param × List Char) :=
  firstOf?
    [named? "transport" token? (tokenParam "transport"), named? "user" token? (tokenParam "user"),
     named? "method" token? (tokenParam "method"),
     named? "ttl" readLifetime? fun seconds => .token "ttl" (toString seconds),
     named? "maddr" readPlace? (.token "maddr"),
     fun text => (word? "lr" text).map fun rest => (.lr, rest)]

/-- Reads any other parameter: a name, and a value after an equals sign or none. -/
def readGenericParam? (text : List Char) : Option (Param × List Char) := do
  let (name, rest) := escapedRun isParamChar text
  if name.isEmpty then none
  let name ← percentDecode? name
  match (separator? '=' rest).map (escapedRun isParamChar) with
  | some (c :: value, after) => return (.token name (← percentDecode? (c :: value)), after)
  | _ => return (.flag name, rest)

/-- Reads a parameter after a semicolon. -/
def readParam? (text : List Char) : Option (Param × List Char) := do
  let text ← separator? ';' text
  (readKnownParam? text).or (readGenericParam? text)

/-- Reads the parameters ahead, the first of which has no white space before its semicolon, up to
the first text that is none. -/
def readParams (text : List Char) : List Param × List Char :=
  if text.head? = some ';' then readMany readParam? text.length text else ([], text)

/-- Reads `name=value` of a header of a URI. -/
def readHeader? (text : List Char) : Option ((String × String) × List Char) :=
  match escapedRun isHeaderChar text with
  | ([], _) => none
  | (name, '=' :: after) => do
    let (value, rest) := escapedRun (fun c => isHeaderChar c || c = '=') after
    return ((← percentDecode? name, ← percentDecode? value), rest)
  | _ => none

/-- The headers with one more, which takes the place of one of its name. -/
def insertHeader (headers : List (String × String)) (header : String × String) :
    List (String × String) :=
  if headers.any (·.1 = header.1) then
    headers.map fun other => if other.1 = header.1 then header else other
  else headers ++ [header]

/-- Reads the headers after a question mark, if there are any; of two with one name the later one
counts. -/
def readHeaders (text : List Char) : List (String × String) × List Char :=
  match (char? '?' text).bind readHeader? with
  | some (first, rest) =>
    let (more, after) := readMany (fun t => (char? '&' t).bind readHeader?) rest.length rest
    ((first :: more).foldl insertHeader [], after)
  | none => ([], text)

/-- Reads a port after a colon, if there is one. -/
def readPort (text : List Char) : Option Nat × List Char :=
  match text with
  | ':' :: rest =>
    let digits := rest.takeWhile Char.isDigit
    match port? digits with
    | some port => (some port, rest.drop digits.length)
    | none => (none, text)
  | _ => (none, text)

/-- The first colon of the text, wherever it stands, is between brackets or has a port of at most
five digits after it. -/
def colonStartsPort (text : List Char) : Bool :=
  match Text.splitFirst? ':' text with
  | none => true
  | some (before, after) =>
    let digits := after.takeWhile Char.isDigit
    let isBracketed :=
      before.reverse.find? (fun c => c = '[' || c = ']') = some '[' && after.contains ']'
    isBracketed || (digits.length ≤ 5 && (port? digits).isSome)

/-- Reads what follows the scheme of a SIP URI. -/
def readSip? (scheme : Scheme) (text : List Char) : Option (Uri × List Char) := do
  let (userInfo, text) := UserInfo.read text
  if !colonStartsPort text then none
  let (host, text) ← Host.read? text
  let (port, text) := readPort text
  let (params, text) := readParams text
  let (headers, text) := readHeaders text
  return (.parts scheme userInfo host port params headers, text)

/-- Reads what follows the scheme of a telephone URI, which has no headers. -/
def readTel (text : List Char) : Uri × List Char :=
  let isMember := fun c => c ≠ ';' && c ≠ '?'
  let (params, rest) := readParams (text.dropWhile isMember)
  (.parts .tel none (.domain (String.ofList (text.takeWhile isMember))) none params [], rest)

/-- Reads a SIP or telephone URI. -/
def read? (text : List Char) : Option (Uri × List Char) :=
  match word? "sip:" text with
  | some rest => readSip? .sip rest
  | none =>
    match word? "sips:" text with
    | some rest => readSip? .sips rest
    | none => (word? "tel:" text).map readTel

/-- A web URI: its host is all between the two slashes and the next one. -/
def web? (text : String) : Option Uri := do
  let rest ←
    if "http://".toList.isPrefixOf text.toList then some (text.toList.drop 7)
    else if "https://".toList.isPrefixOf text.toList then some (text.toList.drop 8)
    else none
  return .web text (String.ofList (rest.takeWhile (· != '/')))

/-- The URI of a text that is a URI as a whole. -/
def ofText? (text : String) : Option Uri :=
  match web? text with
  | some uri => some uri
  | none =>
    match read? text.toList with
    | some (uri, []) => some uri
    | _ => none

end Uri

end ImsClient.Sip
