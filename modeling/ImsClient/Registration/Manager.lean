import ImsClient.Dialog.Message
import ImsClient.Registration.Grant
import ImsClient.Registration.Procedure
import ImsClient.Registration.State

/-!
# The registration manager

The manager keeps one registration alive. Calls of several tasks meet here: a call
that works on the registration dialog holds the manager's lock until its exchange
with the registrar has ended, and the calls behind it wait in line. What happens
to the manager is one event at a time, as for tasks that share one thread; each
event gives the manager after it and what it does to the world: requests handed to
the transport, notices to the listener, and calls that end.
-/

namespace ImsClient.Registration

/-- What the network told at the last successful registration. -/
structure Info where
  associatedUris : List String := []
  publicGruu : Option String := none
  tempGruu : Option String := none
  serviceRoute : List String := []
  nat : NatStatus := {}
  /-- The lifetime by which the refresh was planned. -/
  effectiveExpiry : Option Nat := none
  /-- For how long, in seconds, the last failure asked to wait. -/
  retryAfter : Option Nat := none
deriving DecidableEq, Repr, Inhabited

/-- What the listener is told. -/
inductive Notice where
  | registered
  | failed (error : Error)
  | terminated
deriving DecidableEq, Repr, Inhabited

/-- Names a call in progress. -/
abbrev CallId := Nat

/-- What a caller asks for. -/
inductive Call where
  | register
  /-- To register again, if still registered. -/
  | refresh
  /-- To drop the registration without telling the network. -/
  | stop
  /-- To take the registration back, now or after the REGISTER that is under way. -/
  | unregister
  /-- To stop, then to register. -/
  | restart
deriving DecidableEq, Repr, Inhabited

/-- What a call does once it has the lock. -/
inductive Errand where
  | register
  | refresh
  | stop (thenRegister : Bool)
  /-- To un-REGISTER; deferred, it is the end of the registration call that it waited for. -/
  | unregister (deferred : Bool)
deriving DecidableEq, Repr, Inhabited

/-- What an exchange with the registrar is for. -/
inductive Purpose where
  | register
  | unregister (deferred : Bool)
deriving DecidableEq, Repr, Inhabited

/-- Whether an exchange takes the binding away. -/
def Purpose.isUnregister : Purpose → Bool
  | register => false
  | unregister _ => true

/-- What a call goes on with after the listener returns. -/
inductive Afterwards where
  /-- To perform the un-REGISTER that was deferred, if one was, and then to answer. -/
  | performDeferred
  /-- To answer that the registration failed. -/
  | answerFailed
  /-- To answer whether the client is registered. -/
  | answerRegistered
  /-- To end without an answer. -/
  | done
  | register
deriving DecidableEq, Repr, Inhabited

/-- An exchange under way; its call holds the lock. -/
structure Exchange where
  call : CallId
  purpose : Purpose
deriving DecidableEq, Repr, Inhabited

/-- A call whose notice the listener has not returned from. -/
structure Callback where
  call : CallId
  afterwards : Afterwards
deriving DecidableEq, Repr, Inhabited

/-- A call that waits for the lock. -/
structure Waiter where
  call : CallId
  errand : Errand
deriving DecidableEq, Repr, Inhabited

/-- What comes of a request that was sent. -/
inductive Reply where
  | response (response : Sip.Response)
  /-- The transport could not send it. -/
  | failure (error : Error)
  /-- No response came within the transaction timeout. -/
  | none
deriving DecidableEq, Repr, Inhabited

inductive Event where
  | called (call : CallId) (what : Call)
  /-- The lock is free and the first call in line takes it. -/
  | granted
  /-- The request under way is answered, or will not be. -/
  | replied (reply : Reply)
  /-- The listener returned from the notice that a call gave it. -/
  | returned (call : CallId)
  /-- The refresh timer fires and starts a call. -/
  | fired (call : CallId)
deriving DecidableEq, Repr, Inhabited

inductive Effect where
  /-- A request is sent, and its reply is awaited for a time. -/
  | send (request : Sip.Request) (patience : Duration)
  | tell (call : CallId) (notice : Notice)
  /-- A call ends, with its answer if it has one. -/
  | finish (call : CallId) (answer : Option Bool)
deriving DecidableEq, Repr, Inhabited

structure Manager where
  settings : Settings
  bound : Endpoint
  procedure : Procedure
  supply : Supply := {}
  state : State := .unregistered
  /-- An un-REGISTER waits for the REGISTER under way. -/
  deferred : Bool := false
  registered : Bool := false
  /-- The lifetime to ask for, in seconds. -/
  expiry : Nat
  info : Info := {}
  timer : Timer := {}
  dialog : Option Dialog := none
  /-- The 401 responses of the current attempt, or of the last one. -/
  challenges : Nat := 0
  /-- The rejections that asked for no delay, of the current attempt or of the last one. -/
  rejections : Nat := 0
  /-- The exchange of the call that holds the lock. -/
  exchange : Option Exchange := none
  waiting : List Waiter := []
  callbacks : List Callback := []
deriving DecidableEq, Repr, Inhabited

/-- The most 401 responses and the most rejections that an attempt may meet. -/
def maxFailures : Nat := 3

/-- What a response makes of an attempt. -/
inductive Verdict where
  | resend
  | done
  | fail (error : Error)
deriving DecidableEq, Repr, Inhabited

namespace Manager

/-- A manager with these settings, bound to an address. -/
def create (settings : Settings) (bound : Endpoint) (procedure : Procedure) : Manager :=
  { settings, bound, procedure, expiry := settings.registrationExpiry }

def failure (fault : RegistrationFault) (message : String) : Verdict :=
  .fail (.registration fault message)

/-! ### Responses -/

/-- Takes in a 200 to a REGISTER: what it grants is kept, and the refresh is planned. -/
def takeGrant (m : Manager) (now : Instant) (response : Sip.Response) : Manager :=
  let grant := Grant.ofResponse response m.settings.instanceId m.bound
  let expiry := grant.expiry.getD m.expiry
  { m with
    procedure := (m.procedure.read response).2
    info :=
      { associatedUris := grant.associatedUris
        publicGruu := grant.publicGruu
        tempGruu := grant.tempGruu
        serviceRoute := grant.serviceRoute
        nat := grant.nat
        effectiveExpiry := some expiry
        retryAfter := none }
    registered := true
    state := .registered
    timer := armRefresh now expiry m.timer }

/-- Takes in a 200 to an un-REGISTER. -/
def takeRelease (m : Manager) : Manager :=
  { m with info := { m.info with nat := {}, effectiveExpiry := none } }

/-- Goes on to the place that a 302 names first. -/
def redirect (m : Manager) (response : Sip.Response) : Manager × Verdict :=
  match Sip.Headers.contacts response.headers with
  | [] => (m, failure .unexpectedResponse "302 without Contact")
  | contact :: _ =>
    let target := contact.uri.text .plain
    ({ m with dialog := m.dialog.map fun dialog => { dialog with target } }, .resend)

/-- Answers the challenge of a 401, unless too many came. -/
def answerChallenge (m : Manager) (response : Sip.Response) : Manager × Verdict :=
  let m := { m with challenges := m.challenges + 1 }
  if maxFailures ≤ m.challenges then (m, failure .tooMany401 "too many 401")
  else
    let (result, procedure) := m.procedure.read response
    let m := { m with procedure }
    match result with
    | .ok () => (m, .resend)
    | .error e => (m, failure .unexpectedResponse ("unusable challenge: " ++ e.message))

/-- Adopts the least lifetime that a 423 asks for. -/
def adoptMinimum (m : Manager) (response : Sip.Response) : Manager × Verdict :=
  match (response.headerText? "Min-Expires").bind Text.positiveSeconds? with
  | none => (m, failure .unexpectedResponse "423 without Min-Expires")
  | some expiry => ({ m with expiry }, .resend)

/-- Tries again after a rejection, unless it asks for a delay or too many came. -/
def retry (m : Manager) (response : Sip.Response) : Manager × Verdict :=
  match (response.headerText? "Retry-After").bind Text.positiveSeconds? with
  | some seconds =>
    ({ m with info := { m.info with retryAfter := some seconds } },
      failure .retryAfter (toString response.status ++ " " ++ response.reason ++
        ", retry after " ++ toString seconds ++ "s"))
  | none =>
    let m := { m with rejections := m.rejections + 1 }
    if maxFailures ≤ m.rejections then
      (m, failure .tooMany4xx5xx6xx "too many 4xx/5xx/6xx")
    else (m, .resend)

/-- The rejections after which an attempt is made again. -/
def isRetried (status : Nat) : Bool := [404, 408, 480, 500, 503, 504, 600].contains status

/-- Takes in a response to a request of an exchange. -/
def judge (m : Manager) (now : Instant) (purpose : Purpose) (response : Sip.Response) :
    Manager × Verdict :=
  match response.status with
  | 200 => (if purpose.isUnregister then m.takeRelease else m.takeGrant now response, .done)
  | 302 => m.redirect response
  | 401 => m.answerChallenge response
  | 423 =>
    if purpose.isUnregister then (m, failure .unexpectedResponse "423 to un-REGISTER")
    else m.adoptMinimum response
  | status =>
    if isRetried status then m.retry response
    else
      (m, failure .registrationFailed ("unexpected REGISTER response " ++ toString status ++ " " ++
        response.reason))

/-- What comes of a request: a response is judged, and anything else fails the attempt. -/
def judgeReply (m : Manager) (now : Instant) (purpose : Purpose) : Reply → Manager × Verdict
  | .response response => m.judge now purpose response
  | .failure error => (m, failure .registrationFailed ("REGISTER not sent: " ++ error.message))
  | .none =>
    (m, failure .registrationFailed
      ("no response to REGISTER within " ++ m.settings.transactionTime.describe))

/-! ### The end of an attempt -/

/-- Gives the listener a notice; the call goes on when it returns. -/
def tell (m : Manager) (call : CallId) (notice : Notice) (afterwards : Afterwards) :
    Manager × List Effect :=
  ({ m with callbacks := m.callbacks ++ [⟨call, afterwards⟩] }, [.tell call notice])

/-- What a call goes on with after it was told that its exchange failed. -/
def afterFailure : Purpose → Afterwards
  | .register => .answerFailed
  | .unregister false => .done
  | .unregister true => .answerRegistered

/-- The first half of the end of an attempt that failed: there is no registration, whatever the
attempt was for, and no un-REGISTER left to be done. -/
def giveUp (m : Manager) : Manager := { m with registered := false, deferred := false }

/-- The other half: what the registration had goes, the state tells that it failed, and the call
gives back the lock and tells the listener. -/
def settle (m : Manager) (call : CallId) (purpose : Purpose) (error : Error) :
    Manager × List Effect :=
  { m with
    timer := m.timer.stop
    dialog := none
    state := .failed
    exchange := none }.tell call (.failed error) (afterFailure purpose)

/-- Ends an attempt that failed. The call holds the lock over both halves, but the flag and the
state have a lock of their own, which it gives back between them. -/
def fail (m : Manager) (call : CallId) (purpose : Purpose) (error : Error) :
    Manager × List Effect :=
  m.giveUp.settle call purpose error

/-- The registration is gone, and nothing is wrong. -/
def release (m : Manager) : Manager :=
  { m with
    registered := false
    timer := m.timer.stop
    dialog := none
    state := .unregistered
    exchange := none }

/-- Ends an attempt that succeeded. -/
def succeed (m : Manager) (call : CallId) : Purpose → Manager × List Effect
  | .register => { m with exchange := none }.tell call .registered .performDeferred
  | .unregister deferred =>
    m.release.tell call .terminated (if deferred then .answerRegistered else .done)

/-- The next request of an exchange, with the proof that the procedure asks for. -/
def compose (m : Manager) (purpose : Purpose) : Except Error Sip.Request × Manager :=
  match m.dialog with
  | none => (.error (.internal "no registration dialog"), m)
  | some dialog =>
    let expiry := if purpose.isUnregister then 0 else m.expiry
    match dialog.register m.bound expiry m.settings.instanceId m.settings.featureTags m.supply with
    | .error e => (.error e, m)
    | .ok (request, supply) =>
      let (written, procedure) := m.procedure.write request
      let m := { m with procedure, supply }
      match written with
      | .ok request => (.ok request, m)
      | .error e => (.error (.registration .registrationFailed e.message), m)

/-- Sends the next request of an exchange, or ends the exchange if there is none to send. -/
def send (m : Manager) (call : CallId) (purpose : Purpose) : Manager × List Effect :=
  match m.compose purpose with
  | (.ok request, m) =>
    ({ m with exchange := some ⟨call, purpose⟩ }, [.send request m.settings.transactionTime])
  | (.error e, m) => m.fail call purpose e

/-! ### Calls -/

/-- The dialog for the next REGISTER: the one there is, at its next request, or a new one. -/
def prepareDialog (m : Manager) : Manager :=
  match m.dialog with
  | some dialog => { m with dialog := some dialog.advance }
  | none =>
    let (callId, supply) := m.supply.draw (.call m.bound.ip.text)
    let identity := m.settings.publicUri
    let route := ["<sip:" ++ m.settings.homeDomain ++ ";lr>"]
    let (dialog, supply) := Dialog.create callId m.settings.homeUri identity identity route supply
    { m with dialog := some dialog, supply, procedure := m.procedure.init }

/-- Starts an attempt to register. -/
def startRegister (m : Manager) (call : CallId) : Manager × List Effect :=
  { m.prepareDialog with state := .registering, challenges := 0, rejections := 0 }.send call
    .register

/-- Starts an attempt to un-REGISTER. -/
def startUnregister (m : Manager) (call : CallId) (deferred : Bool) : Manager × List Effect :=
  { m with
    state := .unregistering
    timer := m.timer.stop
    dialog := m.dialog.map Dialog.advance
    challenges := 0
    rejections := 0 }.send call (.unregister deferred)

/-- Ends a call with an answer. -/
def finish (m : Manager) (call : CallId) (answer : Option Bool) : Manager × List Effect :=
  (m, [.finish call answer])

/-- The answer of a call for which there is nothing to un-REGISTER. -/
def answerOf (m : Manager) (deferred : Bool) : Option Bool :=
  if deferred then some m.registered else none

/-- Whether a call can take the lock at once. -/
def isFree (m : Manager) : Bool := m.exchange.isNone && m.waiting.isEmpty

/-- Runs an errand if the lock is free, and puts it in line otherwise. -/
def enter (run : Manager → CallId → Errand → Manager × List Effect) (m : Manager) (call : CallId)
    (errand : Errand) : Manager × List Effect :=
  if m.isFree then run m call errand
  else ({ m with waiting := m.waiting ++ [⟨call, errand⟩] }, [])

/-- Runs an errand other than to stop, with the lock. -/
def runExchange (m : Manager) (call : CallId) : Errand → Manager × List Effect
  | .register => m.startRegister call
  | .refresh =>
    if m.registered && m.dialog.isSome then m.startRegister call else m.finish call (some false)
  | .stop _ => m.finish call none
  | .unregister deferred =>
    if m.registered then m.startUnregister call deferred
    else m.finish call (m.answerOf deferred)

/-- Runs an errand with the lock. To stop ends at once and gives the lock back. -/
def run (m : Manager) (call : CallId) : Errand → Manager × List Effect
  | .stop thenRegister =>
    if m.registered then
      m.release.tell call .terminated (if thenRegister then .register else .done)
    else if thenRegister then m.enter runExchange call .register
    else m.finish call none
  | errand => m.runExchange call errand

/-- Takes the registration back: with a REGISTER under way it is left to that attempt. -/
def beginUnregister (m : Manager) (call : CallId) (deferred : Bool) : Manager × List Effect :=
  if m.state = .registering then
    { m with deferred := true }.finish call (m.answerOf deferred)
  else m.enter run call (.unregister deferred)

/-- Starts a call. -/
def begin (m : Manager) (call : CallId) : Call → Manager × List Effect
  | .register => m.enter run call .register
  | .refresh => m.enter run call .refresh
  | .stop => m.enter run call (.stop false)
  | .restart => m.enter run call (.stop true)
  | .unregister => m.beginUnregister call false

/-- Goes on with a call after the listener returned. -/
def resume (m : Manager) (call : CallId) : Afterwards → Manager × List Effect
  | .performDeferred =>
    if m.deferred then { m with deferred := false }.beginUnregister call true
    else m.finish call (some m.registered)
  | .answerFailed => m.finish call (some false)
  | .answerRegistered => m.finish call (some m.registered)
  | .done => m.finish call none
  | .register => m.enter run call .register

/-- Takes in what came of the request under way. -/
def receive (m : Manager) (now : Instant) (reply : Reply) : Manager × List Effect :=
  match m.exchange with
  | none => (m, [])
  | some ⟨call, purpose⟩ =>
    match m.judgeReply now purpose reply with
    | (m, .resend) => { m with dialog := m.dialog.map Dialog.advance }.send call purpose
    | (m, .done) => m.succeed call purpose
    | (m, .fail error) => m.fail call purpose error

/-- Gives the lock to the first call in line. -/
def grant (m : Manager) : Manager × List Effect :=
  match m.exchange, m.waiting with
  | none, ⟨call, errand⟩ :: waiting => { m with waiting }.run call errand
  | _, _ => (m, [])

/-- What an event at a point of time does. -/
def step (m : Manager) (now : Instant) : Event → Manager × List Effect
  | .called call what => m.begin call what
  | .granted => m.grant
  | .replied reply => m.receive now reply
  | .returned call =>
    match m.callbacks.find? (·.call = call) with
    | none => (m, [])
    | some callback =>
      { m with callbacks := m.callbacks.erase callback }.resume call callback.afterwards
  | .fired call =>
    match m.timer.fire? now.wholeMilliseconds.toNat with
    | none => (m, [])
    | some timer => { m with timer }.begin call .refresh

/-- The failure counts of the current attempt, or of the last one. -/
def failureCounts (m : Manager) : Nat × Nat := (m.challenges, m.rejections)

/-- The manager in a diagnostic. -/
def diagnostic (m : Manager) : String :=
  Text.diagnosticRecord "RegistrationManager"
    [("state", m.state.text), ("expiry", toString m.expiry),
     ("refresher", m.timer.diagnostic "registration")]

end Manager

end ImsClient.Registration
