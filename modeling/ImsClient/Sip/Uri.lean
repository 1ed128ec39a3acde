import ImsClient.Sip.Grammar
import ImsClient.Sip.Param

/-!
# URIs

A URI names a party or a place to send to. SIP and telephone URIs have parts; a
web URI is kept as it is written. The user and the headers of a SIP URI are kept
without their `%`-escapes and written with everything escaped that is not
unreserved.
-/

namespace ImsClient.Sip

/-- A host: an address, or a name of other kind. -/
inductive Host where
  | address (ip : IpAddress)
  | domain (name : String)
deriving DecidableEq, Repr, Inhabited

namespace Host

/-- The address that the text is, or that it has between brackets. -/
def address? (text : List Char) : Option IpAddress :=
  match text with
  | '[' :: rest =>
    match Text.splitFirst? ']' rest with
    | some (inside, []) => IpAddress.ofChars? inside
    | _ => none
  | _ => IpAddress.ofChars? text

/-- The host of a text: an address if the text is one, and a name otherwise. -/
def ofText (text : String) : Host :=
  match address? text.toList with
  | some ip => .address ip
  | none => .domain text

/-- The host as it stands alone. -/
def text : Host → String
  | address ip => ip.text
  | domain name => name

/-- The host as it stands in a URI. -/
def uriText : Host → String
  | address ip => ip.bracketed
  | domain name => name

end Host

inductive Scheme where
  | sip
  | sips
  | tel
deriving DecidableEq, Repr, Inhabited

def Scheme.text : Scheme → String
  | .sip => "sip"
  | .sips => "sips"
  | .tel => "tel"

/-- The user that a SIP URI names, with the password that may follow it. -/
structure UserInfo where
  user : String
  password : Option String := none
deriving DecidableEq, Repr, Inhabited

inductive Uri where
  /-- A URI with parts; a telephone number is the host of its URI. -/
  | parts (scheme : Scheme) (userInfo : Option UserInfo) (host : Host) (port : Option Nat)
      (params : List Param) (headers : List (String × String))
  /-- A web URI, with its host. -/
  | web (text : String) (host : String)
deriving DecidableEq, Repr, Inhabited

namespace Uri

def hostText : Uri → String
  | parts _ _ host _ _ _ => host.text
  | web _ host => host

def port : Uri → Option Nat
  | parts _ _ _ port _ _ => port
  | web _ _ => none

def params : Uri → List Param
  | parts _ _ _ _ params _ => params
  | web _ _ => []

/-- The URI with parameters after its own. -/
def addParams (uri : Uri) (more : List Param) : Uri :=
  match uri with
  | parts scheme userInfo host port params headers =>
    parts scheme userInfo host port (params ++ more) headers
  | web text host => web text host

/-- A port is written unless it is zero. -/
def portText : Option Nat → String
  | some (n + 1) => ":" ++ toString (n + 1)
  | _ => ""

def userInfoText : Option UserInfo → String
  | none => ""
  | some ⟨user, none⟩ => percentEncode isUnreserved user ++ "@"
  | some ⟨user, some password⟩ =>
    percentEncode isUnreserved user ++ ":" ++ percentEncode isUnreserved password ++ "@"

/-- The headers of a URI: the first after a question mark, each other one after an ampersand. -/
def headersText (headers : List (String × String)) : String :=
  match headers with
  | [] => ""
  | _ => "?" ++ String.intercalate "&" (headers.map fun (name, value) =>
      percentEncode isUnreserved name ++ "=" ++ percentEncode isUnreserved value)

def text (names : Naming) : Uri → String
  | parts scheme userInfo host port params headers =>
    scheme.text ++ ":" ++ userInfoText userInfo ++ host.uriText ++ portText port ++
      Param.listText names params ++ headersText headers
  | web text _ => text

/-- The identifiers in a URI. -/
def identifiers (uri : Uri) : List Identifier := uri.params.flatMap Param.identifiers

end Uri

end ImsClient.Sip
