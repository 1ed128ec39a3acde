import ImsClient.Digest.Agent
import ImsClient.Settings

/-!
# Registration procedures

A procedure decides what a REGISTER carries to prove who sends it, and what is
read back from the responses.
-/

namespace ImsClient.Registration

inductive Procedure where
  /-- The access network vouches for the subscriber. -/
  | giba
  /-- HTTP Digest; before a challenge, empty credentials carry the private identity. -/
  | digest (agent : Digest.Agent) (realm : String)
  /-- A procedure of which each writing and each reading fails for which a text is listed. -/
  | faulty (writes reads : List (Option String)) (inner : Procedure)
deriving DecidableEq, Repr, Inhabited

namespace Procedure

/-- The procedure that settings ask for. -/
def ofSettings (settings : Settings) : Except Error Procedure :=
  match settings.procedure with
  | .giba => .ok .giba
  | .digest =>
    match settings.credentials? with
    | none => .error Settings.missingCredentials
    | some (username, password) =>
      .ok (.digest { username, password } settings.homeDomain)

/-- The procedure at the start of a new dialog. -/
def init : Procedure → Procedure
  | giba => giba
  | digest agent realm => digest agent.reset realm
  | faulty writes reads inner => faulty writes reads inner.init

/-- Credentials that only say who the client is. -/
def emptyCredentials (username realm uri : String) : String :=
  "Digest username=\"" ++ username ++ "\",realm=\"" ++ realm ++ "\",nonce=\"\",uri=\"" ++ uri ++
    "\",response=\"\""

/-- Writes the proof into a request. -/
def write (request : Sip.Request) : Procedure → Except Error Sip.Request × Procedure
  | giba => (.ok request, giba)
  | digest agent realm =>
    let uri := request.uri.text .plain
    let (answer, agent) := agent.authorization request.method uri
    let value := answer.getD (emptyCredentials agent.username realm uri)
    (.ok (request.replace (.ofText "Authorization" value)), digest agent realm)
  | faulty (some text :: writes) reads inner =>
    (.error (.protocol text), faulty writes reads inner)
  | faulty writes reads inner =>
    let (written, inner) := inner.write request
    (written, faulty writes.tail reads inner)

/-- Reads what a response says about the proof: the challenge of a 401, or the next nonce that a
200 brings. -/
def read (response : Sip.Response) : Procedure → Except Error Unit × Procedure
  | giba => (.ok (), giba)
  | digest agent realm =>
    match response.status with
    | 401 =>
      match agent.readChallenge response "WWW-Authenticate" with
      | .ok agent => (.ok (), digest agent realm)
      | .error e => (.error e, digest agent realm)
    | 200 =>
      match response.headerText? "Authentication-Info" with
      | some value => (.ok (), digest (agent.readInfo value) realm)
      | none => (.ok (), digest agent realm)
    | _ => (.ok (), digest agent realm)
  | faulty writes (some text :: reads) inner =>
    (.error (.protocol text), faulty writes reads inner)
  | faulty writes reads inner =>
    let (result, inner) := inner.read response
    (result, faulty writes reads.tail inner)

end Procedure

end ImsClient.Registration
