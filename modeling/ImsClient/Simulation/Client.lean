import ImsClient.Engine
import ImsClient.Simulation.Agenda
import ImsClient.Simulation.Contacts
import ImsClient.Simulation.Script

/-!
# Scenarios of a client

A scenario runs a client against a scripted transport, a store of contacts and a
listener that may call back into the registration. Each step of a scenario is a
call in the foreground, a call that runs beside, or time passing.
-/

namespace ImsClient.Simulation

open Registration (Manager Call CallId Notice Reply)
open Engine (Event Effect)

/-- The calls that the listener makes from within its callbacks, one for each notice. -/
structure Reentry where
  registered : List Call := []
  failed : List Call := []
  terminated : List Call := []
deriving Repr, Inhabited

namespace Reentry

/-- The call that the listener makes on a notice, if it makes one, and what it does later. -/
def take (reentry : Reentry) : Notice → Option Call × Reentry
  | .registered =>
    (reentry.registered.head?, { reentry with registered := reentry.registered.tail })
  | .failed _ => (reentry.failed.head?, { reentry with failed := reentry.failed.tail })
  | .terminated =>
    (reentry.terminated.head?, { reentry with terminated := reentry.terminated.tail })

end Reentry

namespace ClientRun

inductive Happening where
  | sent (request : Sip.Request)
  | told (notice : Notice)
  | queried (query : Capability.Query) (contact : Capability.ContactId)
deriving Repr

/-- What a caller asks of a client. -/
inductive Asked where
  | start
  | stop
  /-- A call to the registration itself. -/
  | registration (call : Call)
deriving Repr, Inhabited, DecidableEq

/-- A call that was made. -/
structure CallRecord where
  call : CallId
  asked : Asked
  foreground : Bool := false
  /-- The call whose notice the listener makes this call from. -/
  parent : Option CallId := none
  name : Option String := none
  /-- How the call ended, once it has. -/
  result : Option (Except Error (Option Bool)) := none

/-- What wakes a task. -/
inductive Wake where
  | begin (call : CallId)
  | grant
  | reply (reply : Reply)
  /-- The task of the refresh timer begins to wait. -/
  | planRefresh (arming : Arming)
  | refresh (arming : Arming)
  /-- The task of the polling timer begins to wait. -/
  | planPoll (arming : Arming)
  | poll (arming : Arming)
  | awake

/-- What the foreground task waits for. -/
inductive Wait where
  | call (call : CallId)
  | sleep

structure World where
  engine : Engine
  contacts : Contacts := {}
  agenda : Agenda Wake := {}
  script : List ScriptedReply := []
  reentry : Reentry := {}
  calls : List CallRecord := []
  /-- The sessions that were made, by name. -/
  sessions : List (String × Session.Member) := []
  /-- The lock was given to the first call in line, which has not run yet. -/
  granting : Bool := false
  wait : Option Wait := none
  log : List (Nat × Happening) := []

namespace World

def manager (w : World) : Manager := w.engine.registration

def instant (w : World) : Instant := Instant.ofMilliseconds w.agenda.now

def record? (w : World) (call : CallId) : Option CallRecord := w.calls.find? (·.call = call)

def isForeground (w : World) (call : CallId) : Bool :=
  ((w.record? call).map CallRecord.foreground).getD false

/-- Writes down a call, and gives it a number. -/
def newCall (w : World) (asked : Asked) (foreground : Bool) (parent : Option CallId)
    (name : Option String) : CallId × World :=
  let call := w.calls.length
  (call, { w with calls := w.calls ++ [{ call, asked, foreground, parent, name }] })

def note (w : World) (happening : Happening) : World :=
  { w with log := w.log ++ [(w.agenda.now, happening)] }

/-- Has a timer that was armed begin to wait. -/
def planTimer (before after : Timer) (plan : Arming → Wake) (w : World) : World :=
  match after.pending with
  | some arming =>
    if before.pending = some arming then w
    else { w with agenda := w.agenda.wake false (plan arming) }
  | none => w

/-- Wakes the first call in line if the lock is free. -/
def planGrant (w : World) : World :=
  match w.manager.exchange, w.manager.waiting with
  | none, first :: _ =>
    if w.granting then w
    else
      let agenda := w.agenda.wake (w.isForeground first.call) .grant
      { w with granting := true, agenda }
  | _, _ => w

/-- What the client does on an event. -/
def apply (w : World) (event : Event) : World × List Effect :=
  let (engine, effects) := w.engine.step w.instant event
  let before := w.engine
  let w := { w with engine }
  let w := planTimer before.registration.timer engine.registration.timer .planRefresh w
  let w := planTimer before.polling.timer engine.polling.timer .planPoll w
  (w.planGrant, effects)

/-- Ends a call: a call from within a callback ends the callback, any other is written down. -/
def ended (w : World) (call : CallId) (result : Except Error (Option Bool)) :
    World × List Effect :=
  let calls := w.calls.map fun r => if r.call = call then { r with result := some result } else r
  let wait :=
    match w.wait with
    | some (.call waited) => if waited = call then none else w.wait
    | other => other
  let w := { w with calls, wait }
  match (w.record? call).bind CallRecord.parent with
  | some parent => w.apply (.registration (.returned parent))
  | none => (w, [])

/-- What a reply is for the registration. -/
def replyOf : Option (Except Error Sip.Response) → Reply
  | some (.ok response) => .response response
  | some (.error e) => .failure e
  | none => .none

/-- Hands a request to the transport, which answers at once or later. -/
def sent (w : World) (request : Sip.Request) (patience : Duration) : World × List Effect :=
  let (scripted, script) := nextReply w.script
  let w := { w.note (.sent request) with script }
  let (delay, outcome) := scripted.arrival request patience.wholeMilliseconds
  if delay = 0 then w.apply (.registration (.replied (replyOf outcome)))
  else
    let foreground := ((w.manager.exchange.map (·.call)).map w.isForeground).getD false
    let agenda := w.agenda.setAlarm (w.agenda.now + delay) foreground (.reply (replyOf outcome))
    ({ w with agenda }, [])

/-- Gives the listener a notice; it returns at once or makes a call first. -/
def told (w : World) (call : CallId) (notice : Notice) : World × List Effect :=
  let (action, reentry) := w.reentry.take notice
  let w := { w.note (.told notice) with reentry }
  match action with
  | none => w.apply (.registration (.returned call))
  | some what =>
    let (child, w) := w.newCall (.registration what) (w.isForeground call) (some call) none
    w.apply (.registration (.called child what))

/-- Scans the contacts. -/
def scan (w : World) (round : Nat) : World × List Effect :=
  let surroundings := Contacts.surroundings World.contacts fun query contact w =>
    w.note (.queried query contact)
  let (_, w) := surroundings.scan w.manager.settings.capabilityWindow w
  w.apply (.scanned round)

def perform (w : World) : Effect → World × List Effect
  | .registration (.send request patience) => w.sent request patience
  | .registration (.tell call notice) => w.told call notice
  | .registration (.finish call answer) => w.ended call (.ok answer)
  | .ended call result => w.ended call result
  | .scan round => w.scan round

/-- Performs effects and what follows from them. -/
def performAll : Nat → List Effect → World → World
  | fuel + 1, effect :: effects, w =>
    let (w, more) := w.perform effect
    performAll fuel (more ++ effects) w
  | _, _, w => w

/-- Lets the client take an event, with all that follows at once. -/
def take (w : World) (event : Event) : World :=
  let (w, effects) := w.apply event
  performAll patience effects w

/-- The event by which a call begins. -/
def eventOf (call : CallId) : Asked → Event
  | .start => .started call
  | .stop => .stopped call
  | .registration what => .registration (.called call what)

/-- Fires the refresh timer if the arming is still the pending one. -/
def fireRefresh (w : World) (arming : Arming) : World :=
  if w.manager.timer.pending = some arming then
    let (call, w) := w.newCall (.registration .refresh) false none none
    w.take (.registration (.fired call))
  else w

/-- Fires the polling timer if the arming is still the pending one. -/
def firePoll (w : World) (arming : Arming) : World :=
  if w.engine.polling.timer.pending = some arming then
    let (round, w) := w.newCall (.registration .refresh) false none none
    w.take (.pollingFired round)
  else w

/-- Begins to wait for the deadline of an arming that is still pending. -/
def plan (w : World) (timer : Timer) (arming : Arming) (wake : Wake)
    (fire : World → Arming → World) : World :=
  if timer.pending = some arming then
    let due := arming.deadline.tick.toNat
    if due ≤ w.agenda.now then fire w arming
    else { w with agenda := w.agenda.setAlarm due false wake }
  else w

/-- Runs what is ready. -/
def handle (wake : Wake) (w : World) : World :=
  match wake with
  | .begin call =>
    match w.record? call with
    | some record => w.take (eventOf call record.asked)
    | none => w
  | .grant => { w with granting := false }.take (.registration .granted)
  | .reply reply => w.take (.registration (.replied reply))
  | .planRefresh arming => w.plan w.manager.timer arming (.refresh arming) fireRefresh
  | .refresh arming => w.fireRefresh arming
  | .planPoll arming => w.plan w.engine.polling.timer arming (.poll arming) firePoll
  | .poll arming => w.firePoll arming
  | .awake => { w with wait := none }

instance : Simulated World Wake where
  agenda := World.agenda
  withAgenda agenda w := { w with agenda }
  handle := handle
  isWaiting w := w.wait.isSome

/-- Lets time pass. -/
def sleep (w : World) (ms : Nat) : World :=
  { w with wait := some .sleep, agenda := w.agenda.setAlarm (w.agenda.now + ms) true .awake }

/-- How a call ended, if it has. -/
def result? (w : World) (call : CallId) : Option (Except Error (Option Bool)) :=
  (w.record? call).bind CallRecord.result

/-- Makes a call in the foreground, to its end. -/
def callNow (w : World) (asked : Asked) : CallId × World :=
  let (call, w) := w.newCall asked true none none
  (call, settle ({ w with wait := some (.call call) }.take (eventOf call asked)))

/-- Starts a call beside. -/
def spawn (w : World) (what : Call) (name : Option String) : CallId × World :=
  let (call, w) := w.newCall (.registration what) false none name
  (call, { w with agenda := w.agenda.wake false (.begin call) })

/-- Waits for a call that runs beside. -/
def join (w : World) (call : CallId) : World :=
  if (w.result? call).isSome then w else settle { w with wait := some (.call call) }

/-- The answer of a call to the registration: only to register and to refresh have one. -/
def answerOf (w : World) (call : CallId) : Option Bool := do
  let record ← w.record? call
  match record.asked, record.result with
  | .registration .register, some (.ok answer) | .registration .refresh, some (.ok answer) => answer
  | _, _ => none

end World

/-- The services that keep sessions. -/
inductive ServiceName where
  | chat
  | fileTransfer
deriving Repr, Inhabited, DecidableEq

inductive Step where
  | start
  | stop
  | call (what : Call)
  | sleep (ms : Nat)
  | spawn (name : String) (what : Call)
  | join (name : String)
  | script (replies : List ScriptedReply)
  /-- A new session is registered under a name; if checked, only if there is room for it. -/
  | add (service : ServiceName) (checked : Bool) (name : String) (kind : Session.Kind)
      (callId : Option String)
  | remove (service : ServiceName) (name : String)
  | lookup (callId : String)
  | installLogging
  | debugRegistration
  | debug
deriving Repr

inductive Result where
  | nothing
  | answer (value : Bool)
  | text (value : String)
  | checked (result : Except Error Unit)
  | started (result : Except Error (Option Bool))
  | found (result : Except Error String)

def Result.ofAnswer : Option Bool → Result
  | some value => .answer value
  | none => .nothing

/-- The registry of a service. -/
def registryOf (e : Engine) : ServiceName → Session.Registry
  | .chat => e.chats
  | .fileTransfer => e.files

/-- A client with another registry for a service, and another tracker. -/
def withRegistry (e : Engine) (service : ServiceName) (registry : Session.Registry)
    (tracker : Session.Tracker) : Engine :=
  match service with
  | .chat => { e with chats := registry, tracker }
  | .fileTransfer => { e with files := registry, tracker }

/-- Registers a new session with a service. -/
def addSession (w : World) (service : ServiceName) (checked : Bool) (name : String)
    (kind : Session.Kind) (callId : Option String) : Except Error Unit × World :=
  let (id, supply) := w.engine.supply.draw .session
  let member : Session.Member := { id, kind, callId := callId.map .given }
  let w := { w with engine := { w.engine with supply }, sessions := (name, member) :: w.sessions }
  let registry := registryOf w.engine service
  let added :=
    if checked then registry.addIfAvailable w.engine.tracker member
    else registry.add w.engine.tracker member
  match added with
  | .error e => (.error e, w)
  | .ok (registry, tracker) =>
    (.ok (), { w with engine := withRegistry w.engine service registry tracker })

/-- Removes a session from a service. -/
def removeSession (w : World) (service : ServiceName) (name : String) : World :=
  match w.sessions.lookup name with
  | none => w
  | some member =>
    let (registry, tracker) := (registryOf w.engine service).remove w.engine.tracker member
    { w with engine := withRegistry w.engine service registry tracker }

open World in
/-- Runs one step to its end. -/
def runStep (w : World) (step : Step) : Result × World :=
  match step with
  | .start =>
    let (call, w) := w.callNow .start
    (.started ((w.result? call).getD (.ok none)), w)
  | .stop => (.nothing, (w.callNow .stop).2)
  | .call .restart =>
    let (call, w) := w.spawn .restart none
    (.nothing, w.join call)
  | .call what =>
    let (call, w) := w.callNow (.registration what)
    (.ofAnswer (w.answerOf call), w)
  | .sleep ms => (.nothing, settle (w.sleep ms))
  | .spawn name what => (.nothing, settle (w.spawn what (some name)).2)
  | .join name =>
    match w.calls.reverse.find? (·.name = some name) with
    | none => (.nothing, w)
    | some record =>
      let w := w.join record.call
      (.ofAnswer (w.answerOf record.call), w)
  | .script replies => (.nothing, { w with script := w.script ++ replies })
  | .add service checked name kind callId =>
    let (result, w) := addSession w service checked name kind callId
    (.checked result, w)
  | .remove service name => (.nothing, settle (removeSession w service name))
  | .lookup callId =>
    let found := w.engine.sessionByCallId .plain (.given callId)
    (.found (found.map fun member => member.kind.text), w)
  | .installLogging => (.checked (.error Logging.alreadyInstalled), w)
  | .debugRegistration => (.text w.manager.diagnostic, w)
  | .debug => (.text w.engine.diagnostic, w)

/-- Runs the steps of a scenario. -/
def run : World → List Step → List (Entry Happening Result Engine)
  | _, [] => []
  | w, step :: steps =>
    let (result, w) := runStep { w with log := [] } step
    ⟨w.agenda.now, result, w.log, w.engine⟩ :: run w steps

end ClientRun

/-- A scenario of a client. -/
structure ClientScenario where
  settings : Settings
  bound : Endpoint
  script : List ScriptedReply := []
  reentry : Reentry := {}
  writeFaults : List (Option String) := []
  readFaults : List (Option String) := []
  contacts : Contacts := {}
  steps : List ClientRun.Step

/-- Runs a scenario with settings that are checked. -/
def ClientScenario.run (scenario : ClientScenario) :
    Except Error (List (Entry ClientRun.Happening ClientRun.Result Engine)) := do
  let engine ← Engine.create scenario.settings scenario.bound
  let registration := engine.registration
  let procedure := .faulty scenario.writeFaults scenario.readFaults registration.procedure
  return ClientRun.run
    { engine := { engine with registration := { registration with procedure } }
      contacts := scenario.contacts
      script := scenario.script
      reentry := scenario.reentry } scenario.steps

end ImsClient.Simulation
