import ImsClient.Text.Ascii

/-!
# Lexical rules of SIP

Character classes, white space between elements, quoted strings and `%`-escapes.
A reader of an element takes the characters ahead and gives the element with the
characters that follow it, or nothing if the element is not there.
-/

namespace ImsClient.Sip

def isAlphanumeric (c : Char) : Bool := c.isAlpha || c.isDigit

/-- A character of a token. -/
def isTokenChar (c : Char) : Bool := isAlphanumeric c || "-.!%*_+`'~".toList.contains c

/-- A character that stands for itself everywhere in a URI. -/
def isUnreserved (c : Char) : Bool := isAlphanumeric c || "-_.!~*'()".toList.contains c

def isInlineBlank (c : Char) : Bool := c = ' ' || c = '\t'

/-- The text after a line end, if one stands ahead. -/
def lineEnd? : List Char → Option (List Char)
  | '\r' :: '\n' :: rest => some rest
  | '\n' :: rest => some rest
  | _ => none

/-- Reads white space, which must be there: blanks and tabs, with at most one line end among them,
which is not the last of it. -/
def blanks? (text : List Char) : Option (List Char) :=
  let after := text.dropWhile isInlineBlank
  match lineEnd? after with
  | some next =>
    if next.head?.any isInlineBlank then some (next.dropWhile isInlineBlank) else none
  | none => if after.length < text.length then some after else none

/-- Skips white space, if there is any. -/
def skipBlanks (text : List Char) : List Char := (blanks? text).getD text

/-- Reads a run of characters of a class, at least one of them. -/
def run? (isMember : Char → Bool) (text : List Char) : Option (List Char × List Char) :=
  match text.takeWhile isMember with
  | [] => none
  | member => some (member, text.dropWhile isMember)

def token? (text : List Char) : Option (List Char × List Char) := run? isTokenChar text

/-- Reads one to three digits. -/
def shortDigits? (text : List Char) : Option (List Char × List Char) :=
  match (text.takeWhile Char.isDigit).take 3 with
  | [] => none
  | digits => some (digits, text.drop digits.length)

/-- Reads one character. -/
def char? (c : Char) : List Char → Option (List Char)
  | first :: rest => if first = c then some rest else none
  | [] => none

/-- Reads one character between optional white space. -/
def separator? (c : Char) (text : List Char) : Option (List Char) :=
  (char? c (skipBlanks text)).map skipBlanks

/-- Reads a word, whatever the case of its letters. -/
def word? (word : String) (text : List Char) : Option (List Char) :=
  let length := word.length
  if Text.alike (String.ofList (text.take length)) word then some (text.drop length) else none

/-- The characters of a text that were read when some rest of it is left. -/
def readOf (text rest : List Char) : List Char := text.take (text.length - rest.length)

/-- Reads elements one after another up to the first text that is none, at most `count` of them. -/
def readMany {α : Type} (element? : List Char → Option (α × List Char)) :
    Nat → List Char → List α × List Char
  | 0, text => ([], text)
  | count + 1, text =>
    match element? text with
    | none => ([], text)
    | some (first, rest) =>
      let (more, after) := readMany element? count rest
      (first :: more, after)

/-- Reads the first of some elements that stands ahead. -/
def firstOf? {α : Type} (elements : List (List Char → Option (α × List Char))) (text : List Char) :
    Option (α × List Char) :=
  elements.findSome? fun element? => element? text

/-- Reads a name in any case, an equals sign and a value. -/
def named? {α β : Type} (name : String) (value? : List Char → Option (α × List Char)) (make : α → β)
    (text : List Char) : Option (β × List Char) := do
  let (value, rest) ← value? (← separator? '=' (← word? name text))
  return (make value, rest)

/-- A character that stands for itself in a quoted string: a visible one, or one beyond ASCII. -/
def isQuotable (c : Char) : Bool := 0x20 < c.toNat && c.toNat ≠ 0x7F

/-- A character that a backslash can escape: one of ASCII that ends no line. -/
def isEscapable (c : Char) : Bool := c.toNat < 0x80 && c ≠ '\n' && c ≠ '\r'

/-- The inside of a quoted string up to its closing quote, with its backslashes, and the rest.
A line end in it needs white space after it. -/
def quotedTail? : List Char → Option (List Char × List Char)
  | [] => none
  | '"' :: rest => some ([], rest)
  | '\\' :: c :: rest =>
    if isEscapable c then
      (quotedTail? rest).map fun (inside, after) => ('\\' :: c :: inside, after)
    else none
  | '\r' :: '\n' :: rest =>
    if rest.head?.any isInlineBlank then
      (quotedTail? rest).map fun (inside, after) => ('\r' :: '\n' :: inside, after)
    else none
  | '\n' :: rest =>
    if rest.head?.any isInlineBlank then
      (quotedTail? rest).map fun (inside, after) => ('\n' :: inside, after)
    else none
  | c :: rest =>
    if isQuotable c || isInlineBlank c then
      (quotedTail? rest).map fun (inside, after) => (c :: inside, after)
    else none

/-- Reads a string between double quotes, with white space before it; its backslashes are kept. -/
def quoted? (text : List Char) : Option (List Char × List Char) :=
  match skipBlanks text with
  | '"' :: rest => quotedTail? rest
  | _ => none

/-- Takes every backslash that escapes a character off it. -/
def unescape : List Char → List Char
  | '\\' :: c :: rest => c :: unescape rest
  | c :: rest => c :: unescape rest
  | [] => []

/-- The bytes that a text with `%`-escapes stands for. -/
def percentBytes? : List Char → Option (List UInt8)
  | [] => some []
  | '%' :: high :: low :: rest => do
    let h ← Text.hexValue? high
    let l ← Text.hexValue? low
    return UInt8.ofNat (16 * h + l) :: (← percentBytes? rest)
  | '%' :: _ => none
  | c :: rest => (percentBytes? rest).map ((String.singleton c).toUTF8.toList ++ ·)

/-- The text that a text with `%`-escapes stands for. -/
def percentDecode? (text : List Char) : Option String := do
  String.fromUTF8? ⟨(← percentBytes? text).toArray⟩

/-- Two upper-case hexadecimal digits after a `%`. -/
def percentByte (byte : UInt8) : List Char :=
  '%' :: (Text.hexPadded 2 byte.toNat).map Char.toUpper

/-- Writes each character outside a class as the `%`-escapes of its bytes. -/
def percentEncode (isPlain : Char → Bool) (text : String) : String :=
  String.ofList <| text.toList.flatMap fun c =>
    if isPlain c then [c] else (String.singleton c).toUTF8.toList.flatMap percentByte

/-- Splits off the elements of a URI part: members of a class and `%`-escapes. -/
def escapedRun (isMember : Char → Bool) : List Char → List Char × List Char
  | '%' :: high :: low :: rest =>
    if (Text.hexValue? high).isSome && (Text.hexValue? low).isSome then
      let (member, after) := escapedRun isMember rest
      ('%' :: high :: low :: member, after)
    else ([], '%' :: high :: low :: rest)
  | c :: rest =>
    if isMember c then
      let (member, after) := escapedRun isMember rest
      (c :: member, after)
    else ([], c :: rest)
  | [] => ([], [])

/-- The message of a text that the grammar does not have. -/
def syntaxError (element : String) : String := "Parse error: invalid " ++ element

end ImsClient.Sip
