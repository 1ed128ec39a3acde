import ImsClient.Session.Service
import ImsClient.Simulation.Agenda
import ImsClient.Simulation.Script

/-!
# Scenarios of a session

A scenario runs one session against a scripted transport. Renegotiations run in
the foreground or beside, while the user decides and time passes.
-/

namespace ImsClient.Simulation

open Session (Service Event Effect TaskId Description Context Delivery Answered)

/-- How a transport takes something that it is handed. -/
inductive Willingness where
  | ok
  | never
  | error
  | after (ms : Nat)
deriving Repr, Inhabited, DecidableEq

/-- How a transport takes responses and ACKs, and whether an ACK arrives. -/
structure Carriage where
  sendResponse : Willingness := .ok
  sendAck : Willingness := .ok
  waitAck : Willingness := .ok
deriving Repr, Inhabited

namespace SessionRun

inductive Happening where
  | sent (request : Sip.Request)
  | responded (response : Sip.Response)
  | acknowledged (request : Sip.Request)
  | awaitedAck (callId : Identifier) (cSeq : Nat)
  | advanced (callId : Identifier) (cSeq : Nat)
  | changed (source target : Session.State)
  | updated (outcome : Session.Outcome)
  | failed (error : Error)

/-- What the listener of a session wants to be told. -/
inductive Listening where
  | everything
  /-- Everything but failures. -/
  | allButFailures
  | nothing
deriving Repr, Inhabited, DecidableEq

structure TaskRecord where
  task : TaskId
  foreground : Bool
  name : Option String
  answered : Option Answered := none

inductive Wake where
  | deliver (event : Event)
  | awake

inductive Wait where
  | task (task : TaskId)
  | sleep

structure World where
  session : Service
  listening : Listening := .everything
  carriage : Carriage := {}
  script : List ScriptedReply := []
  agenda : Agenda Wake := {}
  tasks : List TaskRecord := []
  /-- The re-INVITE that was built last. -/
  remembered : Option Sip.Request := none
  wait : Option Wait := none
  log : List (Nat × Happening) := []

namespace World

def instant (w : World) : Instant := Instant.ofMilliseconds w.agenda.now

def record? (w : World) (task : TaskId) : Option TaskRecord := w.tasks.find? (·.task = task)

def isForeground (w : World) (task : TaskId) : Bool :=
  ((w.record? task).map TaskRecord.foreground).getD false

def newTask (w : World) (foreground : Bool) (name : Option String) : TaskId × World :=
  let task := w.tasks.length
  (task, { w with tasks := w.tasks ++ [{ task, foreground, name }] })

def note (w : World) (happening : Happening) : World :=
  { w with log := w.log ++ [(w.agenda.now, happening)] }

def apply (w : World) (event : Event) : World × List Effect :=
  let (session, effects) := w.session.step w.instant event
  ({ w with session }, effects)

/-- Delivers an event to a task at once, or after some milliseconds. -/
def deliver (w : World) (task : TaskId) (delay : Nat) (event : Event) : World × List Effect :=
  if delay = 0 then w.apply event
  else
    let agenda :=
      w.agenda.setAlarm (w.agenda.now + delay) (w.isForeground task) (.deliver event)
    ({ w with agenda }, [])

/-- Delivers what comes of something handed to a transport, if anything comes of it. -/
def carry (w : World) (task : TaskId) (willingness : Willingness) (operation : String)
    (event : Except Error Unit → Event) : World × List Effect :=
  match willingness with
  | .ok => w.apply (event (.ok ()))
  | .error => w.apply (event (.error (.transport (operation ++ " failed"))))
  | .after ms => w.deliver task ms (event (.ok ()))
  | .never => (w, [])

def deliveryOf {α : Type} : Option (Except Error α) → Delivery α
  | some (.ok value) => .done value
  | some (.error e) => .failure e
  | none => .none

/-- Has a task look at the decision at a point of time. -/
def planLook (w : World) (task : TaskId) (deadline : Instant) : World :=
  let due := deadline.tick.toNat
  { w with agenda := w.agenda.setAlarm due (w.isForeground task) (.deliver (.looked task)) }

/-- Plans the last look of a task that has begun to wait for the decision. -/
def planDeadline (w : World) (task : TaskId) : World :=
  match w.session.stage? task with
  | some (.deciding _ _ _ deadline) | some (.watching deadline) => w.planLook task deadline
  | _ => w

def perform (w : World) : Effect → World × List Effect
  | .send task request patience =>
    let (scripted, script) := nextReply w.script
    let w := { w.note (.sent request) with script }
    let (delay, outcome) := scripted.arrival request patience.wholeMilliseconds
    w.deliver task delay (.replied task (deliveryOf outcome))
  | .advancePeer callId cSeq => (w.note (.advanced callId cSeq), [])
  | .acknowledge task request =>
    (w.note (.acknowledged request)).carry task w.carriage.sendAck "send_ack"
      fun _ => .acked task
  | .respond task response =>
    (w.note (.responded response)).carry task w.carriage.sendResponse "send_response"
      (.responded task)
  | .awaitAck task callId cSeq patience =>
    let w := w.note (.awaitedAck callId cSeq)
    let timeout := patience.wholeMilliseconds
    let late := w.deliver task timeout (.confirmed task .none)
    match w.carriage.waitAck with
    | .ok => w.apply (.confirmed task (.done ()))
    | .error => w.apply (.confirmed task (.failure (.transport "wait_ack failed")))
    | .after ms => if ms ≤ timeout then w.deliver task ms (.confirmed task (.done ())) else late
    | .never => late
  | .tellState source target =>
    (if w.listening = .nothing then w else w.note (.changed source target), [])
  | .tellOutcome outcome =>
    (if w.listening = .nothing then w else w.note (.updated outcome), [])
  | .tellError error =>
    (if w.listening = .everything then w.note (.failed error) else w, [])
  | .finish task answered =>
    let tasks :=
      w.tasks.map fun r => if r.task = task then { r with answered := some answered } else r
    let wait :=
      match w.wait with
      | some (.task waited) => if waited = task then none else w.wait
      | other => other
    ({ w with tasks, wait }, [])

/-- Performs effects and what follows from them. -/
def performAll : Nat → List Effect → World → World
  | fuel + 1, effect :: effects, w =>
    let (w, more) := w.perform effect
    performAll fuel (more ++ effects) w
  | _, _, w => w

/-- Lets the session take an event, with all that follows at once. -/
def take (w : World) (event : Event) : World :=
  let (w, effects) := w.apply event
  let w := performAll patience effects w
  match event with
  | .received task _ _ _ | .awaited task _ => w.planDeadline task
  | _ => w

def handle (wake : Wake) (w : World) : World :=
  match wake with
  | .deliver event => w.take event
  | .awake => { w with wait := none }

instance : Simulated World Wake where
  agenda := World.agenda
  withAgenda agenda w := { w with agenda }
  handle := handle
  isWaiting w := w.wait.isSome

/-- Wakes the tasks that wait for the decision, the oldest first. -/
def wakeWatchers (w : World) : World :=
  let watching := w.tasks.filter fun r =>
    match w.session.stage? r.task with
    | some (.deciding _ _ _ _) | some (.watching _) => true
    | _ => false
  let agenda := watching.foldl
    (fun agenda r => agenda.wake r.foreground (.deliver (.looked r.task))) w.agenda
  { w with agenda }

/-- Runs a task in the foreground to its end. -/
def runTask (w : World) (event : TaskId → Event) : Option Answered × World :=
  let (task, w) := w.newTask true none
  let w := await ({ w with wait := some (.task task) }.take (event task))
  ((w.record? task).bind TaskRecord.answered, w)

/-- Starts a task beside. -/
def spawn (w : World) (name : String) (event : TaskId → Event) : World :=
  let (task, w) := w.newTask false (some name)
  { w with agenda := w.agenda.wake false (.deliver (event task)) }

end World

/-- A change that its owner makes to a dialog. -/
inductive DialogChange where
  | advance
  | target (value : String)
  | remoteTag (value : String)
  | route (value : List String)
  | localContent (value : String)
  | remoteContent (value : String)
  | established
  | cancelled
deriving Repr, Inhabited

def DialogChange.apply : DialogChange → Dialog → Dialog
  | advance, dialog => dialog.advance
  | target value, dialog => { dialog with target := value }
  | remoteTag value, dialog => { dialog with remoteTag := some (.given value) }
  | route value, dialog => { dialog with route := value }
  | localContent value, dialog => { dialog with localContent := some value }
  | remoteContent value, dialog => { dialog with remoteContent := some value }
  | established, dialog => { dialog with established := true }
  | cancelled, dialog => { dialog with cancelled := true }

inductive Step where
  | sleep (ms : Nat)
  | join (name : String)
  | setState (target : Session.State)
  | changeDialog (change : DialogChange)
  | setCarriage (carriage : Carriage)
  | script (replies : List ScriptedReply)
  | challenge (response : Sip.Response)
  | create (offer : Description)
  | exchange (request : Option Sip.Request) (context : Context)
  | spawnExchange (name : String) (context : Context)
  | prepare
  | accept
  | reject (status : Option Nat)
  | wait (ms : Option Nat)
  | accept200 (request : Sip.Request) (reply : Description)
  | answer (request : Sip.Request) (reply : Description) (context : Context)
  | spawnAnswer (name : String) (request : Sip.Request) (reply : Description) (context : Context)
  | debug

inductive Result where
  | nothing
  | checked (result : Except Error Unit)
  | request (result : Except Error Sip.Request)
  | answered (answered : Answered)
  | debug

def Result.ofAnswered : Option Answered → Result
  | some ending => .answered ending
  | none => .nothing

/-- Has the proxy agent of a session read a challenge. -/
def readChallenge (session : Service) (response : Sip.Response) : Except Error Service :=
  match session.proxy with
  | none => .ok session
  | some agent => do
    return { session with proxy := some (← agent.readChallenge response "Proxy-Authenticate") }

open World in
/-- Runs one step to its end. Tasks beside are let run where the user decides, where one of them
is started or waited for, and where time passes. -/
def runStep (w : World) (step : Step) : Result × World :=
  match step with
  | .sleep ms =>
    (.nothing, settle { w with
      wait := some .sleep
      agenda := w.agenda.setAlarm (w.agenda.now + ms) true .awake })
  | .join name =>
    match w.tasks.reverse.find? (·.name = some name) with
    | none => (.nothing, w)
    | some record =>
      let w :=
        if record.answered.isSome then w else settle { w with wait := some (.task record.task) }
      (.ofAnswered ((w.record? record.task).bind TaskRecord.answered), w)
  | .setState target =>
    match w.session.setState target with
    | .error e => (.checked (.error e), w)
    | .ok (session, effects) =>
      (.checked (.ok ()), performAll patience effects { w with session })
  | .changeDialog change => (.nothing, { w with session := w.session.updateDialog change.apply })
  | .setCarriage carriage => (.nothing, { w with carriage })
  | .script replies => (.nothing, { w with script := w.script ++ replies })
  | .challenge response =>
    match readChallenge w.session response with
    | .ok session => (.checked (.ok ()), { w with session })
    | .error e => (.checked (.error e), w)
  | .create offer =>
    let (session, effects, result) := w.session.createReinvite offer
    let w := performAll patience effects { w with session }
    let remembered := match result with
      | .ok request => some request
      | .error _ => w.remembered
    (.request result, { w with remembered })
  | .exchange request context =>
    match request.or w.remembered with
    | none => (.nothing, w)
    | some request =>
      let (answered, w) := w.runTask fun task => .offered task request context
      (.ofAnswered answered, w)
  | .spawnExchange name context =>
    match w.remembered with
    | none => (.nothing, w)
    | some request => (.nothing, settle (w.spawn name fun task => .offered task request context))
  | .prepare => (.nothing, settle { w with session := w.session.prepare }.wakeWatchers)
  | .accept => (.nothing, settle { w with session := w.session.accept }.wakeWatchers)
  | .reject status => (.nothing, settle { w with session := w.session.reject status }.wakeWatchers)
  | .wait ms =>
    let period := match ms with
      | some ms => .ofMilliseconds ms
      | none => w.session.settings.ringingTime
    let (answered, w) := w.runTask fun task => .awaited task period
    (.ofAnswered answered, w)
  | .accept200 request reply =>
    let (answered, w) := w.runTask fun task => .accepted task request reply
    (.ofAnswered answered, w)
  | .answer request reply context =>
    let (answered, w) := w.runTask fun task => .received task request reply context
    (.ofAnswered answered, w)
  | .spawnAnswer name request reply context =>
    (.nothing, settle (w.spawn name fun task => .received task request reply context))
  | .debug => (.debug, w)

/-- Runs the steps of a scenario. -/
def run : World → List Step → List (Entry Happening Result Service)
  | _, [] => []
  | w, step :: steps =>
    let (result, w) := runStep { w with log := [] } step
    ⟨w.agenda.now, result, w.log, w.session⟩ :: run w steps

end SessionRun

/-- What a dialog is made of. -/
structure DialogPlan where
  callId : String
  target : String
  localParty : String
  remoteParty : String
  route : List String := []
  remoteTag : Option String := none
deriving Repr, Inhabited

/-- Makes a dialog. -/
def DialogPlan.create (plan : DialogPlan) (supply : Supply) : Dialog × Supply :=
  let (dialog, supply) := Dialog.create (.given plan.callId) plan.target plan.localParty
    plan.remoteParty plan.route supply
  ({ dialog with remoteTag := plan.remoteTag.map .given }, supply)

/-- A scenario of a session. -/
structure SessionScenario where
  settings : Settings
  bound : Endpoint
  kind : Session.Kind
  dialog : Option DialogPlan := none
  proxy : Option (String × String) := none
  /-- The feature tags of the session, if they are not those of the settings. -/
  featureTags : Option (List String) := none
  listening : SessionRun.Listening := .everything
  carriage : Carriage := {}
  /-- The numbers that the transport itself counts, by Call-ID. -/
  peerCounts : List (String × Nat) := []
  script : List ScriptedReply := []
  steps : List SessionRun.Step

/-- Runs a scenario. -/
def SessionScenario.run (scenario : SessionScenario) :
    List (Entry SessionRun.Happening SessionRun.Result Service) :=
  let (id, supply) := Supply.draw .session {}
  let (dialog, supply) :=
    match scenario.dialog with
    | none => (none, supply)
    | some plan =>
      let (dialog, supply) := plan.create supply
      (some dialog, supply)
  let session : Service :=
    { settings := scenario.settings
      bound := scenario.bound
      id
      kind := scenario.kind
      dialog
      proxy := scenario.proxy.map fun (username, password) => { username, password }
      featureTags := scenario.featureTags.getD scenario.settings.featureTags
      peerCount := scenario.dialog.bind fun plan => scenario.peerCounts.lookup plan.callId
      supply }
  SessionRun.run
    { session, listening := scenario.listening, carriage := scenario.carriage,
      script := scenario.script } scenario.steps

end ImsClient.Simulation
