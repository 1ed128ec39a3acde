import ImsClient.Dialog
import ImsClient.Error
import ImsClient.Sip.Address.Parser
import ImsClient.Sip.Message

/-!
# Messages of a dialog

The requests that a client originates within a dialog, and its responses to
requests that it received there. Whatever the dialog holds as text is read first,
so a message is built of well-formed parts or not at all.
-/

namespace ImsClient.Dialog

/-- The content type of every session description. -/
def sessionDescription : String := "application/sdp"

/-- Reads a URI. -/
def uri (text : String) : Except Error Sip.Uri :=
  match Sip.Uri.ofText? text with
  | some found => .ok found
  | none => .error (.protocol (Sip.syntaxError "URI"))

/-- The address of a party, with its tag. -/
def party (text : String) (tag : Option Identifier) : Except Error Sip.Address := do
  return { uri := ← uri text, params := (tag.map Sip.Param.tag).toList }

/-- The entries of one header of the route. -/
def routeEntries (text : String) : Except Error (List Sip.Address) :=
  match Sip.Address.listOfText? text with
  | some entries => .ok entries
  | none => .error (.protocol (Sip.syntaxError "route"))

/-- A feature tag, `name` or `name=value`, as a parameter. A value in quotes stays quoted. -/
def featureParam (tag : String) : Sip.Param :=
  match Text.splitFirst? '=' tag.toList with
  | none => .flag (Text.trim tag)
  | some (name, value) =>
    let name := String.ofList (Text.trimmed name)
    let value := Text.trimmed value
    if value.head? = some '"' then .quoted name (String.ofList (Text.stripQuotes value))
    else .token name (String.ofList value)

/-- The Contact of this client: where it is bound, its instance id and its feature tags. -/
def contact (bound : Endpoint) (instanceId : Option String) (featureTags : List String) :
    Sip.Header :=
  let instanceParams := (instanceId.map (Sip.Param.quoted "+sip.instance")).toList
  .contact [{ uri := .parts .sip none (.address bound.ip) (some bound.port) [] []
              params := instanceParams ++ featureTags.map featureParam }]

/-- The hop that this client writes into its requests, asking for the port it is seen at. -/
def hop (bound : Endpoint) (branch : Identifier) : Sip.Hop where
  host := .address bound.ip
  port := some bound.port
  params := [.branch branch, .rport none]

/-- A request for the current number of the dialog, with the headers that all requests have. -/
def request (method : Sip.Method) (dialog : Dialog) (bound : Endpoint) (supply : Supply) :
    Except Error (Sip.Request × Supply) := do
  let target ← uri dialog.target
  let (branch, supply) := supply.draw .branch
  let sender ← party dialog.localParty (some dialog.localTag)
  let recipient ← party dialog.remoteParty dialog.remoteTag
  let routes ← dialog.route.mapM routeEntries
  let headers :=
    [.via [hop bound branch], .maxForwards 70, .sender sender, .recipient recipient,
      .callId dialog.callId, .cSeq dialog.cSeq method] ++ routes.map Sip.Header.route
  return ({ method, uri := target, headers }, supply)

/-- A REGISTER that asks for a lifetime in seconds; a lifetime of zero takes the binding away. -/
def register (dialog : Dialog) (bound : Endpoint) (expiry : Nat) (instanceId : Option String)
    (featureTags : List String) (supply : Supply) : Except Error (Sip.Request × Supply) := do
  let (base, supply) ← request .register dialog bound supply
  let full := ((base.add (contact bound instanceId featureTags)).add (.expires expiry)).add
    (.ofText "Supported" "path,gruu")
  return (full, supply)

/-- A re-INVITE that offers a session description. -/
def reinvite (dialog : Dialog) (bound : Endpoint) (featureTags : List String) (content : String)
    (supply : Supply) : Except Error (Sip.Request × Supply) := do
  let (base, supply) ← request .invite dialog bound supply
  let offer := ((base.add (contact bound none featureTags)).add
    (.ofText "Content-Type" sessionDescription)).withBody (.text content)
  if featureTags.isEmpty then return (offer, supply)
  else
    let wanted := "*;" ++ String.intercalate ";" featureTags
    return (offer.add (.ofText "Accept-Contact" wanted), supply)

/-- The ACK for a 2xx to the last INVITE of the dialog. -/
def ack (dialog : Dialog) (bound : Endpoint) (supply : Supply) :
    Except Error (Sip.Request × Supply) :=
  request .ack dialog bound supply

/-- The headers of a request that its response repeats. -/
def isEchoed : Sip.Header → Bool
  | .via _ | .sender _ | .callId _ | .cSeq _ _ => true
  | _ => false

/-- A response to a request, with the tag of this client. -/
def respond (dialog : Dialog) (request : Sip.Request) (status : Nat) :
    Except Error Sip.Response := do
  if !Sip.isStatusCode status then
    throw (.protocol ("Invalid status code: " ++ toString status))
  let us ← party dialog.localParty (some dialog.localTag)
  return { status, headers := request.headers.filter isEchoed ++ [.recipient us] }

/-- The 200 that accepts a re-INVITE and answers its offer. -/
def accept (dialog : Dialog) (request : Sip.Request) (bound : Endpoint)
    (featureTags : List String) (content : String) : Except Error Sip.Response := do
  let response ← respond dialog request 200
  return ((response.add (contact bound none featureTags)).add
    (.ofText "Content-Type" sessionDescription)).withBody (.text content)

end ImsClient.Dialog
