import ImsClient.Sip.Header
import ImsClient.Sip.Status

/-!
# Messages

Requests and responses, and the lookups in their headers and bodies.
-/

namespace ImsClient.Sip

/-- What a message carries: text, or bytes that are no text. -/
inductive Body where
  | text (content : String)
  | binary (bytes : List UInt8)
deriving DecidableEq, Repr

namespace Body

def empty : Body := text ""

instance : Inhabited Body := ⟨empty⟩

def size : Body → Nat
  | text content => content.utf8ByteSize
  | binary bytes => bytes.length

/-- The body of a run of bytes. -/
def ofBytes (bytes : List UInt8) : Body :=
  match String.fromUTF8? ⟨bytes.toArray⟩ with
  | some content => text content
  | none => binary bytes

/-- The bytes written by pairs of hexadecimal digits. -/
def hexBytes : List Char → List UInt8
  | high :: low :: rest =>
    .ofNat ((Text.hexadecimal? [high, low]).getD 0) :: hexBytes rest
  | _ => []

/-- The body whose bytes are written in hexadecimal digits. -/
def ofHex (digits : String) : Body := ofBytes (hexBytes digits.toList)

/-- The text of a body, if there is any. -/
def content? : Body → Option String
  | text content => if content.isEmpty then none else some content
  | binary _ => none

end Body

namespace Headers

/-- The texts of the headers of a name, in the order of the message. -/
def texts (names : Naming) (headers : List Header) (name : String) : List String :=
  (headers.filter (Header.isNamed name)).map (Header.text names)

/-- The text of the first header of a name. -/
def text? (names : Naming) (headers : List Header) (name : String) : Option String :=
  (texts names headers name).head?

def has (headers : List Header) (name : String) : Bool := headers.any (Header.isNamed name)

/-- The headers with one header in place of every one that has its name, at the end. -/
def replace (header : Header) (headers : List Header) : List Header :=
  headers.filter (fun other => other.name != header.name) ++ [header]

def callId? (headers : List Header) : Option Identifier :=
  headers.findSome? fun
    | .callId value => some value
    | _ => none

def cSeq? (headers : List Header) : Option Nat :=
  headers.findSome? fun
    | .cSeq number _ => some number
    | _ => none

/-- The entries of all Contact headers. -/
def contacts (headers : List Header) : List Address :=
  headers.flatMap fun
    | .contact entries => entries
    | _ => []

/-- The hops of the first Via header. -/
def topVia? (headers : List Header) : Option (List Hop) :=
  headers.findSome? fun
    | .via hops => some hops
    | _ => none

/-- The tag of the first To header that has one. -/
def toTag? (headers : List Header) : Option Identifier :=
  headers.findSome? fun
    | .recipient party => party.tag?
    | _ => none

/-- The headers of a message that is given a body: its length stands last. -/
def withLength (body : Body) (headers : List Header) : List Header :=
  headers.filter (fun other => other.name != "Content-Length") ++ [.contentLength body.size]

end Headers

structure Request where
  method : Method
  uri : Uri
  headers : List Header := []
  body : Body := .empty
deriving DecidableEq, Repr, Inhabited

namespace Request

/-- The request with one more header. -/
def add (request : Request) (header : Header) : Request :=
  { request with headers := request.headers ++ [header] }

/-- The request with a body. -/
def withBody (request : Request) (body : Body) : Request :=
  { request with headers := Headers.withLength body request.headers, body }

/-- The request with one header in place of every one of its name. -/
def replace (request : Request) (header : Header) : Request :=
  { request with headers := Headers.replace header request.headers }

def content? (request : Request) : Option String := request.body.content?

def callId? (request : Request) : Option Identifier := Headers.callId? request.headers

def cSeq? (request : Request) : Option Nat := Headers.cSeq? request.headers

end Request

structure Response where
  status : Nat
  /-- The reason phrase that the response brings, if any. -/
  phrase : Option String := none
  headers : List Header := []
  body : Body := .empty
deriving DecidableEq, Repr, Inhabited

namespace Response

/-- The reason phrase of a response. -/
def reason (response : Response) : String := response.phrase.getD (reasonPhrase response.status)

/-- The response with one more header. -/
def add (response : Response) (header : Header) : Response :=
  { response with headers := response.headers ++ [header] }

/-- The response with a body. -/
def withBody (response : Response) (body : Body) : Response :=
  { response with headers := Headers.withLength body response.headers, body }

def content? (response : Response) : Option String := response.body.content?

/-- The text of the first header of a name. -/
def headerText? (response : Response) (name : String) : Option String :=
  Headers.text? Naming.plain response.headers name

def headerTexts (response : Response) (name : String) : List String :=
  Headers.texts Naming.plain response.headers name

end Response

/-- A request or a response. -/
inductive Message where
  | request (request : Request)
  | response (response : Response)
deriving DecidableEq, Repr, Inhabited

namespace Message

def headers : Message → List Header
  | request r => r.headers
  | response r => r.headers

def content? : Message → Option String
  | request r => r.content?
  | response r => r.content?

/-- The message with one header in place of every one of its name. -/
def replace (message : Message) (header : Header) : Message :=
  match message with
  | request r => request (r.replace header)
  | response r => response { r with headers := Headers.replace header r.headers }

end Message

end ImsClient.Sip
