import ImsClient.Digest.Challenge
import ImsClient.Digest.Md5

/-!
# Digest agents

An agent answers challenges for one pair of credentials. It holds the last
challenge that it was given, counts the answers made with its nonce, and draws a
client nonce for each answer.
-/

namespace ImsClient.Digest

/-- A challenge with the number of answers made since its nonce was supplied. -/
structure Held where
  challenge : Challenge
  count : Nat := 0
deriving DecidableEq, Repr, Inhabited

structure Agent where
  username : String
  password : String
  held : Option Held := none
  /-- How many client nonces were drawn. -/
  drawn : Nat := 0
deriving DecidableEq, Repr, Inhabited

/-- The response that proves the password: by RFC 2617, with a nonce count and client nonce if
the quality of protection "auth" is used and without them otherwise. -/
def response (username password realm nonce method uri : String)
    (auth : Option (String × String)) : String :=
  let secret := Md5.hex (username ++ ":" ++ realm ++ ":" ++ password)
  let asked := Md5.hex (method ++ ":" ++ uri)
  match auth with
  | some (count, clientNonce) =>
    Md5.hex (secret ++ ":" ++ nonce ++ ":" ++ count ++ ":" ++ clientNonce ++ ":auth:" ++ asked)
  | none => Md5.hex (secret ++ ":" ++ nonce ++ ":" ++ asked)

namespace Agent

def hasChallenge (agent : Agent) : Bool := agent.held.isSome

/-- Takes in the challenge in the header of a name; one that cannot be answered changes nothing. -/
def readChallenge (agent : Agent) (response : Sip.Response) (name : String) :
    Except Error Agent := do
  let challenge ← Challenge.ofResponse response name
  return { agent with held := some ⟨challenge, 0⟩ }

/-- Takes over the next nonce of an Authentication-Info, if a challenge is held. -/
def readInfo (agent : Agent) (value : String) : Agent :=
  match Sip.AuthenticationInfo.nextNonce? value, agent.held with
  | some nonce, some held =>
    { agent with held := some ⟨{ held.challenge with nonce := nonce }, 0⟩ }
  | _, _ => agent

/-- Forgets the challenge. -/
def reset (agent : Agent) : Agent := { agent with held := none }

/-- A count in eight hexadecimal digits. -/
def countText (count : Nat) : String := String.ofList (Text.hexPadded 8 count)

/-- A client nonce in sixteen hexadecimal digits. -/
def clientNonceText (number : Nat) : String := String.ofList (Text.hexPadded 16 number)

/-- The credentials that answer a challenge. -/
def credentials (agent : Agent) (challenge : Challenge) (count clientNonce : String)
    (method : Sip.Method) (uri : String) : String :=
  let auth := if challenge.offersAuth then some (count, clientNonce) else none
  let proof :=
    response agent.username agent.password challenge.realm challenge.nonce method.text uri auth
  "Digest username=\"" ++ agent.username ++ "\",realm=\"" ++ challenge.realm ++
    "\",nonce=\"" ++ challenge.nonce ++ "\",uri=\"" ++ uri ++ "\",response=\"" ++ proof ++
    "\",algorithm=MD5" ++
    (if challenge.offersAuth then ",cnonce=\"" ++ clientNonce ++ "\",nc=" ++ count ++ ",qop=auth"
      else "") ++
    (match challenge.opaqueData with
      | some data => ",opaque=\"" ++ data ++ "\""
      | none => "")

/-- Credentials for a request; there are none before a challenge. -/
def authorization (agent : Agent) (method : Sip.Method) (uri : String) :
    Option String × Agent :=
  match agent.held with
  | none => (none, agent)
  | some held =>
    let count := held.count + 1
    let clientNonce := agent.drawn + 1
    (some (agent.credentials held.challenge (countText count) (clientNonceText clientNonce)
        method uri),
      { agent with held := some { held with count }, drawn := clientNonce })

end Agent

end ImsClient.Digest
