import ImsClient.Dialog.Message
import ImsClient.Digest.Agent
import ImsClient.Session.State
import ImsClient.Settings
import ImsClient.Time.Timer

/-!
# A session and its renegotiation

A session has a key, a state and, if it is carried over SIP, a dialog. Its media
are renegotiated by re-INVITEs: this side offers one and acts on the response, or
it receives one, waits for the user's decision and answers. Several such tasks may
be under way at once. What happens is one event at a time; each event gives the
session after it and what it does to the world.
-/

namespace ImsClient.Session

/-- The user's decision on a re-INVITE that was received. -/
inductive Answer where
  | notAnswered
  | accepted
  | rejected (status : Nat)
deriving DecidableEq, Repr, Inhabited

namespace Answer

/-- The answer in a diagnostic. -/
def diagnostic : Answer → String
  | notAnswered => "NotAnswered"
  | accepted => "Accepted"
  | rejected status => "Rejected(" ++ toString status ++ ")"

/-- The answer once a decision is taken: the first decision stays. -/
def record (answer decision : Answer) : Answer :=
  match answer with
  | notAnswered => decision
  | decided => decided

end Answer

/-- What a re-INVITE is for. -/
inductive Context where
  | addVideo
  | removeVideo
  | mediaUpdate
deriving DecidableEq, Repr, Inhabited

namespace Context

def all : List Context := [addVideo, removeVideo, mediaUpdate]

def text : Context → String
  | addVideo => "AddVideo"
  | removeVideo => "RemoveVideo"
  | mediaUpdate => "MediaUpdate"

end Context

/-- How a renegotiation ended. -/
inductive Ending where
  | accepted
  | rejected (status : Nat)
  /-- Nobody answered. -/
  | timedOut
  | failed (error : Error)
deriving DecidableEq, Repr, Inhabited

structure Outcome where
  context : Context
  ending : Ending
deriving DecidableEq, Repr, Inhabited

def Outcome.isAccepted (outcome : Outcome) : Bool := outcome.ending = .accepted

/-- Names a task in progress. -/
abbrev TaskId := Nat

/-- The description, and the feature tags, that a re-INVITE or the answer to one brings. -/
structure Description where
  featureTags : List String := []
  content : String := ""
deriving DecidableEq, Repr, Inhabited

/-- What a task does with the response that it hands to the transport. -/
inductive Responding where
  /-- To await the ACK of a 200, as part of an answer to a re-INVITE or on its own. -/
  | awaitAck (callId : Identifier) (cSeq : Nat) (answering : Option Context)
  /-- To end the answer to a re-INVITE. -/
  | conclude (outcome : Outcome)
deriving DecidableEq, Repr, Inhabited

/-- What a task waits for. -/
inductive Stage where
  /-- The response to a re-INVITE that was sent. -/
  | offering (request : Sip.Request) (context : Context) (retried : Bool)
  /-- The transport, to take the ACK. -/
  | acking (context : Context)
  /-- The user's decision on a re-INVITE, up to a point of time. -/
  | deciding (request : Sip.Request) (reply : Description) (context : Context)
      (deadline : Instant)
  /-- The user's decision, up to a point of time, to tell it. -/
  | watching (deadline : Instant)
  /-- The transport, to take a response. -/
  | responding (responding : Responding)
  /-- The ACK of a 200. -/
  | confirming (answering : Option Context)
deriving DecidableEq, Repr, Inhabited

/-- What comes of something handed to the transport: it is done, it failed, or the time that was
given to it is over. -/
inductive Delivery (α : Type) where
  | done (value : α)
  | failure (error : Error)
  | none
deriving DecidableEq, Repr, Inhabited

inductive Event where
  /-- A re-INVITE is to be sent. -/
  | offered (task : TaskId) (request : Sip.Request) (context : Context)
  /-- A re-INVITE that was received is to be answered once the user decides. -/
  | received (task : TaskId) (request : Sip.Request) (reply : Description) (context : Context)
  /-- A re-INVITE that was received is accepted now. -/
  | accepted (task : TaskId) (request : Sip.Request) (reply : Description)
  /-- The user's decision is awaited for a time. -/
  | awaited (task : TaskId) (period : Duration)
  /-- A task that waits for the decision looks at it. -/
  | looked (task : TaskId)
  /-- The re-INVITE of a task is answered, or will not be. -/
  | replied (task : TaskId) (reply : Delivery Sip.Response)
  /-- The ACK of a task was taken by the transport, or not. -/
  | acked (task : TaskId)
  /-- The response of a task was taken by the transport, or not. -/
  | responded (task : TaskId) (result : Except Error Unit)
  /-- The ACK that a task awaits arrived, or will not. -/
  | confirmed (task : TaskId) (result : Delivery Unit)

/-- What a task ends with. -/
inductive Answered where
  | outcome (outcome : Outcome)
  | decision (answer : Answer)
  | response (result : Except Error Unit)

inductive Effect where
  /-- A re-INVITE is sent, and its reply is awaited for a time. -/
  | send (task : TaskId) (request : Sip.Request) (patience : Duration)
  /-- The transport's own count for a dialog is brought up to a number. -/
  | advancePeer (callId : Identifier) (cSeq : Nat)
  | acknowledge (task : TaskId) (request : Sip.Request)
  | respond (task : TaskId) (response : Sip.Response)
  /-- An ACK is awaited for a time. -/
  | awaitAck (task : TaskId) (callId : Identifier) (cSeq : Nat) (patience : Duration)
  /-- The listener is told that the state changed. -/
  | tellState (source target : State)
  /-- The listener is told how a renegotiation ended. -/
  | tellOutcome (outcome : Outcome)
  /-- The listener is told of a failure. -/
  | tellError (error : Error)
  | finish (task : TaskId) (answered : Answered)

structure Service where
  settings : Settings
  bound : Endpoint
  id : Identifier
  kind : Kind
  state : State := .initiated
  dialog : Option Dialog := none
  /-- The agent that answers the challenges of the outbound proxy. -/
  proxy : Option Digest.Agent := none
  featureTags : List String := []
  answer : Answer := .notAnswered
  /-- The number that the transport itself counts for the dialog, if it counts. -/
  peerCount : Option Nat := none
  supply : Supply := {}
  tasks : List (TaskId × Stage) := []
deriving Inhabited

namespace Service

def callId? (s : Service) : Option Identifier := s.dialog.map Dialog.callId

/-- The session with a change to its dialog. -/
def updateDialog (s : Service) (change : Dialog → Dialog) : Service :=
  { s with dialog := s.dialog.map change }

/-! ### The state -/

/-- What a new state means for the dialog. -/
def mark (target : State) (dialog : Dialog) : Dialog :=
  match target with
  | .terminated | .aborted => { dialog with cancelled := true }
  | .started => { dialog with established := true }
  | _ => dialog

/-- Goes on to a state; the state that the session has already changes nothing. -/
def setState (s : Service) (target : State) : Except Error (Service × List Effect) :=
  if s.state = target then .ok (s, [])
  else do
    s.state.check target
    return ({ s.updateDialog (mark target) with state := target },
      [.tellState s.state target])

/-! ### The decision -/

/-- Clears the decision for a re-INVITE that was received. -/
def prepare (s : Service) : Service := { s with answer := .notAnswered }

def accept (s : Service) : Service := { s with answer := s.answer.record .accepted }

/-- Rejects with a status, 603 if none is given. -/
def reject (s : Service) (status : Option Nat) : Service :=
  { s with answer := s.answer.record (.rejected (status.getD 603)) }

/-! ### Tasks -/

/-- The session with a task at a stage. -/
def withTask (s : Service) (task : TaskId) (stage : Stage) : Service :=
  { s with tasks := (task, stage) :: s.tasks.filter (·.1 ≠ task) }

def withoutTask (s : Service) (task : TaskId) : Service :=
  { s with tasks := s.tasks.filter (·.1 ≠ task) }

def stage? (s : Service) (task : TaskId) : Option Stage := s.tasks.lookup task

/-- Ends a task. -/
def finish (s : Service) (task : TaskId) (answered : Answered) : Service × List Effect :=
  (s.withoutTask task, [.finish task answered])

/-- Ends a renegotiation; the listener is told how. -/
def conclude (s : Service) (task : TaskId) (outcome : Outcome) : Service × List Effect :=
  (s.withoutTask task, [.tellOutcome outcome, .finish task (.outcome outcome)])

/-- Ends a renegotiation by a failure that the listener is told of first. -/
def concludeFailed (s : Service) (task : TaskId) (context : Context) (error : Error) :
    Service × List Effect :=
  let (s, effects) := s.conclude task ⟨context, .failed error⟩
  (s, .tellError error :: effects)

def noDialog : Error := .session .unexpectedException "session has no dialog"

/-! ### Offering -/

/-- Moves the transport's count up to a number, if it counts and is behind. -/
def advancePeer (s : Service) (callId : Identifier) (cSeq : Nat) : Service × List Effect :=
  match s.peerCount with
  | some count =>
    if count < cSeq then ({ s with peerCount := some cSeq }, [.advancePeer callId cSeq])
    else (s, [])
  | none => (s, [])

/-- The request with credentials for the proxy, if it gave a challenge. -/
def authorize (s : Service) (request : Sip.Request) : Service × Sip.Request :=
  match s.proxy with
  | none => (s, request)
  | some agent =>
    let (answer, agent) := agent.authorization request.method (request.uri.text .plain)
    let s := { s with proxy := some agent }
    match answer with
    | some value => (s, request.replace (.ofText "Proxy-Authorization" value))
    | none => (s, request)

/-- Builds a re-INVITE for the next number of the dialog. -/
def createReinvite (s : Service) (offer : Description) :
    Service × List Effect × Except Error Sip.Request :=
  match s.dialog with
  | none => (s, [], .error noDialog)
  | some dialog =>
    let dialog := dialog.advance
    let (s, effects) := { s with dialog := some dialog }.advancePeer dialog.callId dialog.cSeq
    match dialog.reinvite s.bound offer.featureTags offer.content s.supply with
    | .error e => (s, effects, .error e)
    | .ok (request, supply) =>
      let (s, request) := { s with supply }.authorize request
      (s, effects, .ok request)

/-- Sends a re-INVITE. -/
def offer (s : Service) (task : TaskId) (request : Sip.Request) (context : Context)
    (retried : Bool) : Service × List Effect :=
  (s.withTask task (.offering request context retried),
    [.send task request s.settings.transactionTime])

/-- What a 200 to a re-INVITE means for the dialog: the tag of the far end, and both session
descriptions. -/
def commit (request : Sip.Request) (response : Sip.Response) (dialog : Dialog) : Dialog :=
  { dialog with
    remoteTag := (Sip.Headers.toTag? response.headers).or dialog.remoteTag
    localContent := request.content?.or dialog.localContent
    remoteContent := response.content?.or dialog.remoteContent }

/-- Takes in a 200 to a re-INVITE, and acknowledges it. -/
def takeAcceptance (s : Service) (task : TaskId) (request : Sip.Request) (context : Context)
    (response : Sip.Response) : Service × List Effect :=
  let accepted : Outcome := ⟨context, .accepted⟩
  match s.dialog with
  | none => s.conclude task accepted
  | some dialog =>
    let dialog := commit request response dialog
    let s := { s with dialog := some dialog }
    match dialog.ack s.bound s.supply with
    | .error _ => s.conclude task accepted
    | .ok (ack, supply) =>
      ({ s with supply }.withTask task (.acking context), [.acknowledge task ack])

/-- Answers the challenge of the proxy with the same offer. -/
def answerProxy (s : Service) (task : TaskId) (request : Sip.Request) (context : Context)
    (response : Sip.Response) : Service × List Effect :=
  match s.proxy with
  | none =>
    s.concludeFailed task context
      (.session .proxyAuthenticationFailed "407 without proxy credentials")
  | some agent =>
    match agent.readChallenge response "Proxy-Authenticate" with
    | .error e =>
      s.concludeFailed task context (.session .proxyAuthenticationFailed e.message)
    | .ok agent =>
      let again : Description := ⟨s.featureTags, request.content?.getD ""⟩
      match { s with proxy := some agent }.createReinvite again with
      | (s, effects, .error e) =>
        let (s, more) := s.concludeFailed task context e
        (s, effects ++ more)
      | (s, effects, .ok request) =>
        let (s, more) := s.offer task request context true
        (s, effects ++ more)

/-- Takes in the response to a re-INVITE. -/
def takeResponse (s : Service) (task : TaskId) (request : Sip.Request) (context : Context)
    (retried : Bool) (response : Sip.Response) : Service × List Effect :=
  match response.status with
  | 200 => s.takeAcceptance task request context response
  | 603 => s.conclude task ⟨context, .rejected 603⟩
  | 408 => s.conclude task ⟨context, .timedOut⟩
  | 407 =>
    if retried then
      s.concludeFailed task context
        (.session .proxyAuthenticationFailed "proxy rejected credentials")
    else s.answerProxy task request context response
  | status =>
    s.concludeFailed task context
      (.session .mediaRenegotiationFailed
        ("re-INVITE answered " ++ toString status ++ " " ++ response.reason))

/-- Takes in what came of a re-INVITE. -/
def takeReply (s : Service) (task : TaskId) (request : Sip.Request) (context : Context)
    (retried : Bool) : Delivery Sip.Response → Service × List Effect
  | .done response => s.takeResponse task request context retried response
  | .failure e =>
    s.concludeFailed task context
      (.session .mediaRenegotiationFailed ("re-INVITE not sent: " ++ e.message))
  | .none =>
    s.concludeFailed task context
      (.session .mediaRenegotiationFailed
        ("no response to re-INVITE within " ++ s.settings.transactionTime.describe))

/-! ### Answering -/

/-- Ends the acceptance of a re-INVITE, on its own or as the answer to it. -/
def concludeAcceptance (s : Service) (task : TaskId) (answering : Option Context)
    (result : Except Error Unit) : Service × List Effect :=
  match answering, result with
  | none, _ => s.finish task (.response result)
  | some context, .ok () => s.conclude task ⟨context, .accepted⟩
  | some context, .error e => s.concludeFailed task context e

/-- Accepts a re-INVITE: both descriptions go into the dialog, and a 200 is sent. -/
def sendAcceptance (s : Service) (task : TaskId) (request : Sip.Request) (reply : Description)
    (answering : Option Context) : Service × List Effect :=
  match s.dialog with
  | none => s.concludeAcceptance task answering (.error noDialog)
  | some dialog =>
    match request.callId?, request.cSeq? with
    | some callId, some cSeq =>
      let dialog :=
        { dialog with
          remoteContent := request.content?.or dialog.remoteContent
          localContent := some reply.content }
      let s := { s with dialog := some dialog }
      match dialog.accept request s.bound reply.featureTags reply.content with
      | .error e => s.concludeAcceptance task answering (.error e)
      | .ok response =>
        (s.withTask task (.responding (.awaitAck callId cSeq answering)),
          [.respond task response])
    | _, _ =>
      s.concludeAcceptance task answering
        (.error (.protocol "re-INVITE without Call-ID or CSeq"))

/-- Answers a re-INVITE with a status other than 200. -/
def refuse (s : Service) (task : TaskId) (request : Sip.Request) (status : Nat)
    (outcome : Outcome) : Service × List Effect :=
  match s.dialog with
  | none => s.conclude task { outcome with ending := .failed noDialog }
  | some dialog =>
    match dialog.respond request status with
    | .error e => s.conclude task { outcome with ending := .failed e }
    | .ok response =>
      (s.withTask task (.responding (.conclude outcome)), [.respond task response])

/-- Answers a re-INVITE by the decision there is. -/
def carryOut (s : Service) (task : TaskId) (request : Sip.Request) (reply : Description)
    (context : Context) : Answer → Service × List Effect
  | .accepted => s.sendAcceptance task request reply (some context)
  | .rejected status => s.refuse task request status ⟨context, .rejected status⟩
  | .notAnswered => s.refuse task request 408 ⟨context, .timedOut⟩

/-- Whether a task that waits for the decision goes on: there is one, or its time is over. -/
def isDecided (s : Service) (now deadline : Instant) : Bool :=
  s.answer != .notAnswered || deadline.tick ≤ now.tick

/-- A task that waits for the decision looks at it. -/
def look (s : Service) (now : Instant) (task : TaskId) : Service × List Effect :=
  match s.stage? task with
  | some (.deciding request reply context deadline) =>
    if s.isDecided now deadline then s.carryOut task request reply context s.answer
    else (s, [])
  | some (.watching deadline) =>
    if s.isDecided now deadline then s.finish task (.decision s.answer) else (s, [])
  | _ => (s, [])

/-- Goes on after the transport took a response, or did not. -/
def takeResponded (s : Service) (task : TaskId) (responding : Responding)
    (result : Except Error Unit) : Service × List Effect :=
  match responding, result with
  | .awaitAck callId cSeq answering, .ok () =>
    (s.withTask task (.confirming answering),
      [.awaitAck task callId cSeq s.settings.transactionTime])
  | .awaitAck _ _ answering, .error e => s.concludeAcceptance task answering (.error e)
  | .conclude outcome, .ok () => s.conclude task outcome
  | .conclude outcome, .error e => s.conclude task { outcome with ending := .failed e }

/-- Goes on after the ACK arrived, or did not. -/
def takeConfirmation (s : Service) (task : TaskId) (answering : Option Context) :
    Delivery Unit → Service × List Effect
  | .done () => s.concludeAcceptance task answering (.ok ())
  | .failure e => s.concludeAcceptance task answering (.error (.session .noAck e.message))
  | .none =>
    s.concludeAcceptance task answering
      (.error (.session .noAck ("no ACK within " ++ s.settings.transactionTime.describe)))

/-- What an event at a point of time does. -/
def step (s : Service) (now : Instant) : Event → Service × List Effect
  | .offered task request context => s.offer task request context false
  | .received task request reply context =>
    let deadline := now + s.settings.ringingTime.nanoseconds
    (s.withTask task (.deciding request reply context deadline)).look now task
  | .accepted task request reply => s.sendAcceptance task request reply none
  | .awaited task period =>
    (s.withTask task (.watching (now + period.nanoseconds))).look now task
  | .looked task => s.look now task
  | .replied task reply =>
    match s.stage? task with
    | some (.offering request context retried) => s.takeReply task request context retried reply
    | _ => (s, [])
  | .acked task =>
    match s.stage? task with
    | some (.acking context) => s.conclude task ⟨context, .accepted⟩
    | _ => (s, [])
  | .responded task result =>
    match s.stage? task with
    | some (.responding responding) => s.takeResponded task responding result
    | _ => (s, [])
  | .confirmed task result =>
    match s.stage? task with
    | some (.confirming answering) => s.takeConfirmation task answering result
    | _ => (s, [])

/-- The session in a diagnostic, under a naming of its identifiers. -/
def diagnostic (names : Naming) (s : Service) : String :=
  Text.diagnosticRecord "ImsServiceSession"
    [("session_id", Text.diagnostic (s.id.text names)),
     ("kind", s.kind.diagnostic), ("state", s.state.text),
     ("dialog", Text.diagnosticOption
       (s.callId?.map fun callId => Text.diagnostic (callId.text names)))]

/-- The renegotiation of the session in a diagnostic. -/
def updateDiagnostic (s : Service) : String :=
  Text.diagnosticRecord "SessionUpdateManager" [("answer", s.answer.diagnostic)]

end Service

end ImsClient.Session
