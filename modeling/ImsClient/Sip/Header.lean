import ImsClient.Sip.Address
import ImsClient.Sip.HeaderName
import ImsClient.Sip.Method

/-!
# Headers

A header is text under a name, or one of the few headers whose parts the client
works with. Looking up a value by its type sees the headers of that type only;
looking up by name sees every header.
-/

namespace ImsClient.Sip

/-- One hop of the path that a request took. -/
structure Hop where
  host : Host
  port : Option Nat := none
  params : List Param := []
deriving DecidableEq, Repr, Inhabited

namespace Hop

def text (names : Naming) (hop : Hop) : String :=
  "SIP/2.0/UDP " ++ hop.host.text ++
    (match hop.port with
      | some port => ":" ++ toString port
      | none => "") ++
    Param.listText names hop.params

/-- The address that the next hop received the request from, if it was written in. -/
def received? (hop : Hop) : Option IpAddress :=
  hop.params.findSome? fun
    | .received ip => some ip
    | _ => none

/-- The port of a parameter `rport`, its name in any case; nothing if what it has for a value is
no number of 16 bits. -/
def rportOf? (param : Param) : Option (Option Nat) :=
  match param with
  | .rport port => some port
  | .flag name => if Text.alike name "rport" then some none else none
  | .token name value | .quoted name value =>
    if Text.alike name "rport" then
      ((Text.signedDecimal? value.toList).filter (· ≤ 65535)).map some
    else none
  | _ => none

/-- The port that the next hop received the request from, if it was written in. -/
def rport? (hop : Hop) : Option Nat := (hop.params.findSome? rportOf?).join

end Hop

inductive Header where
  /-- Text under a name. -/
  | raw (name value : String)
  | expires (seconds : Nat)
  | contact (entries : List Address)
  /-- The Contact that stands for every binding. -/
  | contactStar
  | via (hops : List Hop)
  | sender (party : Address)
  | recipient (party : Address)
  | callId (value : Identifier)
  | cSeq (number : Nat) (method : Method)
  | maxForwards (hops : Nat)
  | route (entries : List Address)
  | contentLength (bytes : Nat)
deriving DecidableEq, Repr, Inhabited

namespace Header

/-- A header of plain text, its name in canonical form. -/
def ofText (name value : String) : Header := raw (HeaderName.canonical name) value

/-- The name of a header. -/
def name : Header → String
  | raw name _ => name
  | expires _ => "Expires"
  | contact _ | contactStar => "Contact"
  | via _ => "Via"
  | sender _ => "From"
  | recipient _ => "To"
  | callId _ => "Call-ID"
  | cSeq _ _ => "CSeq"
  | maxForwards _ => "Max-Forwards"
  | route _ => "Route"
  | contentLength _ => "Content-Length"

/-- What stands after the name and its colon. -/
def value (names : Naming) : Header → String
  | raw _ value => value
  | expires seconds => toString seconds
  | contact entries => String.join (entries.map (Address.text names))
  | contactStar => "*"
  | via hops => String.intercalate ", " (hops.map (Hop.text names))
  | sender party | recipient party => party.text names
  | callId value => value.text names
  | cSeq number method => toString number ++ " " ++ method.text
  | maxForwards hops => toString hops
  | route entries => String.intercalate ", " (entries.map (Address.text names))
  | contentLength bytes => toString bytes

/-- The header as a line of a message. -/
def line (names : Naming) (header : Header) : String :=
  header.name ++ ": " ++ header.value names

/-- The text of a header: what follows the first colon of its line, without the white space
around it. -/
def text (names : Naming) (header : Header) : String :=
  match Text.splitFirst? ':' (header.line names).toList with
  | some (_, after) => String.ofList (Text.trimmed after)
  | none => header.line names

/-- The identifiers in a header, in the order of its text. -/
def identifiers : Header → List Identifier
  | contact entries | route entries => entries.flatMap Address.identifiers
  | via hops => hops.flatMap fun hop => hop.params.flatMap Param.identifiers
  | sender party | recipient party => party.identifiers
  | callId value => [value]
  | _ => []

/-- Whether a header has a name, whatever the case of its letters. -/
def isNamed (name : String) (header : Header) : Bool := Text.alike header.name name

end Header

end ImsClient.Sip
