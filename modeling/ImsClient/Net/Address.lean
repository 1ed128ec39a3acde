import ImsClient.Text.Ascii

/-!
# Network addresses

IPv4 and IPv6 addresses, reading them from text, and the one canonical text of
each. Two host texts denote the same host if they are two texts of one address,
or else if they differ at most in the case of ASCII letters.
-/

namespace ImsClient

/-- An address of version 4 (four octets) or of version 6 (eight groups of 16 bits). -/
inductive IpAddress where
  | v4 (octets : List UInt8)
  | v6 (groups : List UInt16)
deriving DecidableEq, Repr, Inhabited

namespace IpAddress

/-- An octet in one to three decimal digits without a leading zero. -/
def octet? (text : List Char) : Option UInt8 :=
  match text with
  | [] => none
  | first :: rest =>
    if !text.all Char.isDigit || 3 < text.length || (first = '0' && !rest.isEmpty) then none
    else
      let value := Text.decimalValue text
      if value < 256 then some (UInt8.ofNat value) else none

/-- Four octets between dots. -/
def dottedQuad? (text : List Char) : Option (List UInt8) :=
  let pieces := Text.splitAt '.' text
  if pieces.length = 4 then pieces.mapM octet? else none

/-- A group of one to four hexadecimal digits. -/
def group? (text : List Char) : Option UInt16 :=
  if text.isEmpty || 4 < text.length then none
  else (Text.hexadecimal? text).map UInt16.ofNat

/-- The two groups that hold four octets. -/
def quadGroups (octets : List UInt8) : List UInt16 :=
  match octets with
  | [a, b, c, d] =>
    [UInt16.ofNat (256 * a.toNat + b.toNat), UInt16.ofNat (256 * c.toNat + d.toNat)]
  | _ => []

/-- The groups written between colons; the last piece may be a dotted quad that stands for two. -/
def pieceGroups? (allowQuad : Bool) : List (List Char) → Option (List UInt16)
  | [] => some []
  | [last] =>
    match group? last with
    | some group => some [group]
    | none => if allowQuad then (dottedQuad? last).map quadGroups else none
  | piece :: pieces => do
    let group ← group? piece
    let groups ← pieceGroups? allowQuad pieces
    return group :: groups

/-- The groups of one side of a `::`, where no text stands for no group. -/
def groups? (allowQuad : Bool) (text : List Char) : Option (List UInt16) :=
  if text.isEmpty then some [] else pieceGroups? allowQuad (Text.splitAt ':' text)

/-- Splits a text at its first `::`. -/
def splitGap? : List Char → Option (List Char × List Char)
  | ':' :: ':' :: rest => some ([], rest)
  | c :: rest => (splitGap? rest).map fun (before, after) => (c :: before, after)
  | [] => none

/-- Eight groups, or fewer around a `::` that stands for one zero group at least. -/
def hexGroups? (text : List Char) : Option (List UInt16) :=
  match splitGap? text with
  | none => (groups? true text).filter (·.length = 8)
  | some (before, after) => do
    let head ← groups? false before
    let tail ← groups? true after
    if head.length + tail.length ≤ 7 then
      return head ++ List.replicate (8 - head.length - tail.length) 0 ++ tail
    else none

def ofChars? (text : List Char) : Option IpAddress :=
  match dottedQuad? text with
  | some octets => some (.v4 octets)
  | none => (hexGroups? text).map .v6

/-- Reads an address from its text; there are no blanks, brackets or zones. -/
def ofText? (text : String) : Option IpAddress := ofChars? text.toList

/-- The length of the run of zero groups that a list starts with. -/
def zeroRun (groups : List UInt16) : Nat := (groups.takeWhile (· == 0)).length

/-- Start and length of the longest run of zero groups, the first one of several. -/
def longestZeroRun : Nat → List UInt16 → Nat × Nat
  | start, [] => (start, 0)
  | start, group :: rest =>
    let here := zeroRun (group :: rest)
    let (laterStart, later) := longestZeroRun (start + 1) rest
    if later ≤ here then (start, here) else (laterStart, later)

/-- Groups in lower-case hexadecimal digits without leading zeros, between colons. -/
def groupsText (groups : List UInt16) : String :=
  String.intercalate ":" (groups.map fun group => String.ofList (Nat.toDigits 16 group.toNat))

def quadText (octets : List UInt8) : String :=
  String.intercalate "." (octets.map fun octet => toString octet.toNat)

/-- The octets that two groups hold. -/
def groupOctets (groups : List UInt16) : List UInt8 :=
  groups.flatMap fun group => [UInt8.ofNat (group.toNat / 256), UInt8.ofNat (group.toNat % 256)]

/-- The canonical text: the longest run of two or more zero groups becomes `::`, and an IPv4
address mapped into version 6 shows its dotted quad. -/
def text : IpAddress → String
  | .v4 octets => quadText octets
  | .v6 groups =>
    if groups.take 6 = [0, 0, 0, 0, 0, 0xFFFF] then
      "::ffff:" ++ quadText (groupOctets (groups.drop 6))
    else
      let (start, length) := longestZeroRun 0 groups
      if 1 < length then
        groupsText (groups.take start) ++ "::" ++ groupsText (groups.drop (start + length))
      else groupsText groups

/-- The address as the host of a URI: version 6 stands in brackets. -/
def bracketed (ip : IpAddress) : String :=
  match ip with
  | .v4 _ => ip.text
  | .v6 _ => "[" ++ ip.text ++ "]"

end IpAddress

/-- Whether two host texts denote the same host. -/
def sameHost (a b : String) : Bool :=
  match IpAddress.ofText? a, IpAddress.ofText? b with
  | some x, some y => x = y
  | _, _ => Text.alike a b

/-- A port number in decimal digits. -/
def port? (text : List Char) : Option Nat :=
  (Text.decimal? text).filter (· ≤ 65535)

/-- An address and port that something is bound to. -/
structure Endpoint where
  ip : IpAddress
  port : Nat
deriving DecidableEq, Repr, Inhabited

namespace Endpoint

def text (endpoint : Endpoint) : String :=
  endpoint.ip.bracketed ++ ":" ++ toString endpoint.port

/-- Reads `address:port`, an address of version 6 in brackets. -/
def ofText? (text : String) : Option Endpoint :=
  match text.toList with
  | '[' :: rest => do
    let (host, after) ← Text.splitFirst? ']' rest
    let groups ← IpAddress.hexGroups? host
    match after with
    | ':' :: digits => return ⟨.v6 groups, ← port? digits⟩
    | _ => none
  | host => do
    let (quad, digits) ← Text.splitFirst? ':' host
    return ⟨.v4 (← IpAddress.dottedQuad? quad), ← port? digits⟩

end Endpoint

end ImsClient
