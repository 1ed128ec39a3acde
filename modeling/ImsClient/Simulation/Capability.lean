import ImsClient.Capability.Polling
import ImsClient.Simulation.Agenda
import ImsClient.Simulation.Contacts

/-!
# Scenarios of capability polling

A scenario polls a store of contacts. Only while time passes can timers fire.
-/

namespace ImsClient.Simulation

open Capability (ContactId Snapshot Query Polling)

namespace CapabilityRun

inductive Happening where
  | queried (query : Query) (contact : ContactId)
  | stored (contact : ContactId) (snapshot : Snapshot)
deriving Repr

inductive Wake where
  /-- The task of the timer begins to wait. -/
  | plan (arming : Arming)
  | fire (arming : Arming)
  | awake
deriving Repr

structure World where
  polling : Polling
  window : Int
  contacts : Contacts
  agenda : Agenda Wake := {}
  isAsleep : Bool := false
  log : List (Nat × Happening) := []

namespace World

def instant (w : World) : Instant := Instant.ofMilliseconds w.agenda.now

def note (w : World) (happening : Happening) : World :=
  { w with log := w.log ++ [(w.agenda.now, happening)] }

/-- The world with polling changed; a timer that was armed begins to wait. -/
def update (w : World) (polling : Polling) : World :=
  let before := w.polling.timer.pending
  let w := { w with polling }
  match polling.timer.pending with
  | some arming =>
    if before = some arming then w
    else { w with agenda := w.agenda.wake false (.plan arming) }
  | none => w

/-- Scans the contacts and makes the queries. -/
def scan (w : World) : Except Error Capability.Report × World :=
  let surroundings := Contacts.surroundings World.contacts fun query contact w =>
    w.note (.queried query contact)
  surroundings.scan w.window w

/-- Scans in a round that has begun, and ends the round. -/
def completeRound (w : World) (round : Nat) : World :=
  let (_, w) := w.scan
  w.update (w.polling.endRound w.instant round)

/-- Runs a round at once. -/
def periodic (w : World) : World :=
  match w.polling.beginRound 0 with
  | (polling, true) => { w with polling }.completeRound 0
  | (_, false) => w

/-- Fires the timer if the arming is still the pending one. -/
def fire (w : World) (arming : Arming) : World :=
  if w.polling.timer.pending = some arming then
    match w.polling.fire w.agenda.now 0 with
    | (polling, true) => { w with polling }.completeRound 0
    | (polling, false) => { w with polling }
  else w

def handle (wake : Wake) (w : World) : World :=
  match wake with
  | .plan arming =>
    if w.polling.timer.pending = some arming then
      let due := arming.deadline.tick.toNat
      if due ≤ w.agenda.now then w.fire arming
      else { w with agenda := w.agenda.setAlarm due false (.fire arming) }
    else w
  | .fire arming => w.fire arming
  | .awake => { w with isAsleep := false }

instance : Simulated World Wake where
  agenda := World.agenda
  withAgenda agenda w := { w with agenda }
  handle := handle
  isWaiting := World.isAsleep

def sleep (w : World) (ms : Nat) : World :=
  settle { w with
    isAsleep := true
    agenda := w.agenda.setAlarm (w.agenda.now + ms) true .awake }

/-- Stores the capabilities that a contact answered with. -/
def record (w : World) (contact : ContactId) (capabilities : Capability.Capabilities) :
    Except Error Unit × World :=
  let snapshot : Snapshot := ⟨capabilities, w.contacts.clock⟩
  match w.contacts.write contact snapshot with
  | .error e => (.error e, w)
  | .ok contacts => (.ok (), { w with contacts }.note (.stored contact snapshot))

end World

inductive Step where
  | scan
  | record (contact : ContactId) (capabilities : Capability.Capabilities)
  | start
  | stop
  | sleep (ms : Nat)
  | clock (time : Int)
  /-- Which contacts cannot be read or written, and whether none can be listed. -/
  | store (unreadable unwritable : List ContactId) (unlistable : Bool)
  | periodic
  | debug
deriving Repr

inductive Result where
  | nothing
  | report (result : Except Error Capability.Report)
  | checked (result : Except Error Unit)
  | text (value : String)

/-- Runs one step to its end. -/
def runStep (w : World) : Step → Result × World
  | .scan =>
    let (result, w) := w.scan
    (.report result, w)
  | .record contact capabilities =>
    let (result, w) := w.record contact capabilities
    (.checked result, w)
  | .start => (.nothing, w.update (w.polling.start w.instant))
  | .stop => (.nothing, w.update w.polling.stop)
  | .sleep ms => (.nothing, w.sleep ms)
  | .clock time => (.nothing, { w with contacts := { w.contacts with clock := time } })
  | .store unreadable unwritable unlistable =>
    (.nothing, { w with contacts := { w.contacts with unreadable, unwritable, unlistable } })
  | .periodic => (.nothing, w.periodic)
  | .debug => (.text w.polling.diagnostic, w)

/-- Runs the steps of a scenario; of the state, polling and the store are shown. -/
def run : World → List Step → List (Entry Happening Result (Polling × Contacts))
  | _, [] => []
  | w, step :: steps =>
    let (result, w) := runStep { w with log := [] } step
    ⟨w.agenda.now, result, w.log, (w.polling, w.contacts)⟩ :: run w steps

/-- Runs the steps of a scenario with settings and a store. -/
def start (settings : Settings) (contacts : Contacts) (steps : List Step) :
    List (Entry Happening Result (Polling × Contacts)) :=
  run { polling := Polling.create settings, window := settings.capabilityWindow, contacts } steps

end CapabilityRun

end ImsClient.Simulation
