import ImsClient.Sip.Address.Parser
import ImsClient.Sip.Message
import ImsClient.Time.Timer

/-!
# What a registrar grants

A 200 to a REGISTER says for how long the binding stands, under which identities
and GRUUs, by which route services are reached, and from which address the
request arrived. Of the bindings listed, only this client's own counts.
-/

namespace ImsClient.Registration

/-- What a registrar saw of where this client sends from. -/
structure NatStatus where
  /-- The registrar saw another address or port than the client is bound to: a NAT stands in
  between. -/
  behindNat : Bool := false
  address : Option String := none
  port : Option Nat := none
deriving DecidableEq, Repr, Inhabited

namespace NatStatus

/-- Where the registrar saw this client, if both the address and the port are known. -/
def publicAddress (nat : NatStatus) : Option (String × Nat) :=
  nat.address.bind fun address => nat.port.map (address, ·)

/-- The verdict on the address and the port that a registrar saw, against where this client is
bound. -/
def ofSeen (address : String) (port : Nat) (bound : Endpoint) : NatStatus :=
  let behindNat := !sameHost address bound.ip.text || port != bound.port
  if behindNat then { behindNat, address := some address, port := some port } else {}

/-- The verdict on the first hop of a Via: on what was written into it, or else on what it was sent
as. -/
def detect (via : List Sip.Hop) (bound : Endpoint) : NatStatus :=
  match via with
  | [] => {}
  | top :: _ =>
    let address :=
      match top.received? with
      | some ip => ip.text
      | none => top.host.text
    ofSeen address ((top.rport?.or top.port).getD bound.port) bound

end NatStatus

structure Grant where
  associatedUris : List String := []
  publicGruu : Option String := none
  tempGruu : Option String := none
  serviceRoute : List String := []
  nat : NatStatus := {}
  /-- The lifetime of the binding in seconds, if one is given. -/
  expiry : Option Nat := none
deriving DecidableEq, Repr, Inhabited

namespace Grant

/-- Whether an address is the binding of an instance. -/
def carries (instanceId : String) (contact : Sip.Address) : Bool :=
  contact.param? .plain "+sip.instance" = some instanceId

/-- The binding of this client: the first one with its instance id; without an id, the first. -/
def ownBinding? (instanceId : Option String) (contacts : List Sip.Address) : Option Sip.Address :=
  match instanceId with
  | some instanceId => contacts.find? (carries instanceId)
  | none => contacts.head?

/-- The entries of the lists of addresses in all headers of a name. -/
def addresses (response : Sip.Response) (name : String) : List Sip.Address :=
  (response.headerTexts name).flatMap fun value => (Sip.Address.listOfText? value).getD []

/-- The positive lifetime of a binding: its own, or else the one of the response. -/
def lifetime? (own : Option Sip.Address) (response : Sip.Response) : Option Nat :=
  let ofBinding := own.bind (Sip.Address.expires? .plain)
  let ofResponse := (response.headerText? "Expires").bind Text.deltaSeconds?
  (ofBinding.or ofResponse).filter (0 < ·)

/-- What a 200 grants to a client with an instance id, bound to an address. -/
def ofResponse (response : Sip.Response) (instanceId : Option String) (bound : Endpoint) :
    Grant :=
  let own := ownBinding? instanceId (Sip.Headers.contacts response.headers)
  { associatedUris := (addresses response "P-Associated-URI").map (·.uri.text .plain)
    publicGruu := own.bind (·.param? .plain "pub-gruu")
    tempGruu := own.bind (·.param? .plain "temp-gruu")
    serviceRoute := (addresses response "Service-Route").map (·.text .plain)
    nat := NatStatus.detect ((Sip.Headers.topVia? response.headers).getD []) bound
    expiry := lifetime? own response }

end Grant

/-- Up to this lifetime, in seconds, a registration is refreshed half-way through. -/
def shortExpiry : Nat := 1200

/-- A longer one is refreshed so many seconds before it runs out. -/
def refreshMargin : Nat := 600

/-- How long after a grant the registration is refreshed. -/
def refreshDelay (expiry : Nat) : Duration :=
  if expiry ≤ shortExpiry then (Duration.ofSeconds expiry).scale .half
  else .ofSeconds (expiry - refreshMargin)

/-- Arms a timer for the refresh of a registration granted now. -/
def armRefresh (now : Instant) (expiry : Nat) (timer : Timer) : Timer :=
  if expiry ≤ shortExpiry then timer.startScaled now (.ofSeconds expiry) .half
  else timer.start now (refreshDelay expiry)

end ImsClient.Registration
