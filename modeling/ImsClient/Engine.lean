import ImsClient.Capability.Polling
import ImsClient.Registration.Manager
import ImsClient.Session.Registry

/-!
# The engine

The engine is a whole client: it registers and polls capabilities between its
start and its stop, and keeps the sessions of its services. A start waits for its
registration to end, well or not, and starts polling then; a stop may come in
between.
-/

namespace ImsClient

open Registration (Manager CallId Call)

structure Engine where
  registration : Manager
  polling : Capability.Polling
  started : Bool := false
  /-- The starts whose registration has not ended. -/
  starting : List CallId := []
  /-- The stops whose registration has not been taken back. -/
  stopping : List CallId := []
  tracker : Session.Tracker := {}
  chats : Session.Registry
  files : Session.Registry
  supply : Supply := { label := 1 }
deriving DecidableEq, Repr, Inhabited

namespace Engine

inductive Event where
  | started (call : CallId)
  | stopped (call : CallId)
  /-- Something happens to the registration. -/
  | registration (event : Registration.Event)
  /-- The polling timer fires and begins a round. -/
  | pollingFired (round : Nat)
  /-- The scan of a round has ended. -/
  | scanned (round : Nat)

inductive Effect where
  | registration (effect : Registration.Effect)
  /-- A start or a stop ends; a start tells whether the client is registered. -/
  | ended (call : CallId) (result : Except Error (Option Bool))
  /-- The contacts are scanned in a round. -/
  | scan (round : Nat)

/-- A client that is built of its parts and was not started. -/
def ofProcedure (settings : Settings) (bound : Endpoint) (procedure : Registration.Procedure) :
    Engine :=
  { registration := Manager.create settings bound procedure
    polling := Capability.Polling.create settings
    chats := Session.Registry.forChat settings
    files := Session.Registry.forFileTransfer settings }

/-- A client with settings that were checked. -/
def create (settings : Settings) (bound : Endpoint) : Except Error Engine := do
  settings.validate
  return ofProcedure settings bound (← Registration.Procedure.ofSettings settings)

def alreadyStarted : Error := .internal "IMS core already started"

/-- Takes in what the registration does: the end of a start starts polling. -/
def absorb (now : Instant) (e : Engine) : Registration.Effect → Engine × Effect
  | .finish call answer =>
    if call ∈ e.starting then
      ({ e with starting := e.starting.erase call, polling := e.polling.start now },
        .ended call (.ok answer))
    else if call ∈ e.stopping then
      ({ e with stopping := e.stopping.erase call }, .ended call (.ok none))
    else (e, .registration (.finish call answer))
  | effect => (e, .registration effect)

def absorbAll (now : Instant) : Engine → List Registration.Effect → Engine × List Effect
  | e, [] => (e, [])
  | e, effect :: effects =>
    let (e, first) := e.absorb now effect
    let (e, rest) := absorbAll now e effects
    (e, first :: rest)

/-- Lets the registration take an event. -/
def register (e : Engine) (now : Instant) (event : Registration.Event) : Engine × List Effect :=
  let (registration, effects) := e.registration.step now event
  { e with registration }.absorbAll now effects

/-- Starts the client, unless it is started. -/
def start (e : Engine) (now : Instant) (call : CallId) : Engine × List Effect :=
  if e.started then (e, [.ended call (.error alreadyStarted)])
  else
    { e with started := true, starting := call :: e.starting }.register now
      (.called call .register)

/-- Stops the client, if it is started. -/
def stop (e : Engine) (now : Instant) (call : CallId) : Engine × List Effect :=
  if e.started then
    { e with started := false, polling := e.polling.stop, stopping := call :: e.stopping }.register
      now (.called call .unregister)
  else (e, [.ended call (.ok none)])

/-- What an event at a point of time does. -/
def step (e : Engine) (now : Instant) : Event → Engine × List Effect
  | .started call => e.start now call
  | .stopped call => e.stop now call
  | .registration event => e.register now event
  | .pollingFired round =>
    let (polling, scans) := e.polling.fire now.wholeMilliseconds.toNat round
    ({ e with polling }, if scans then [.scan round] else [])
  | .scanned round => ({ e with polling := e.polling.endRound now round }, [])

/-- The session whose dialog has a Call-ID. -/
def sessionByCallId (names : Naming) (e : Engine) (callId : Identifier) :
    Except Error Session.Member :=
  match e.tracker.byCallId? callId with
  | some member => .ok member
  | none => .error (.sessionNotFound (callId.text names))

def diagnostic (e : Engine) : String :=
  Text.diagnosticRecord "ImsCore"
    [("started", if e.started then "true" else "false"),
     ("registration", e.registration.diagnostic),
     ("chat_sessions", e.chats.diagnostic),
     ("file_transfer_sessions", e.files.diagnostic)]

end Engine

end ImsClient
