import ImsClient.Simulation.Agenda
import ImsClient.Time.Refresher

/-!
# Scenarios of a timer

A scenario starts and stops one refresher; its owner may start it again when called.
Only while time passes can its tasks run.
-/

namespace ImsClient.Simulation.TimerRun

/-- A start of the timer: for a period times a factor after a base, which lies some milliseconds
from now. -/
structure Start where
  period : Duration
  factor : Time.Factor := .one
  offset : Int := 0
deriving Repr, Inhabited

inductive Wake where
  /-- A task of the refresher runs. -/
  | run (task : Nat)
  | awake
deriving Repr

structure World where
  /-- The refresher, until it is dropped. -/
  refresher : Option Refresher := some {}
  /-- Whether the owner of the refresher is there to be called. -/
  hasOwner : Bool := true
  /-- The starts that the owner makes, one each time it is called. -/
  rearm : List Start := []
  fired : Nat := 0
  agenda : Agenda Wake := {}
  isAsleep : Bool := false
  log : List (Nat × Nat) := []

/-- The latest point of time that the clock can tell: it counts whole seconds with 63 bits. -/
def latest : Instant := 9_223_372_036_854_775_808 * 1_000_000_000 - 1

namespace World

/-- Starts the refresher; its new task is about to run, unless the start fails. -/
def start (w : World) (s : Start) : World :=
  let base : Instant := Instant.ofMilliseconds w.agenda.now + s.offset * 1_000_000
  match w.refresher.bind (Refresher.startScaled? latest base s.period s.factor) with
  | none => w
  | some refresher =>
    { w with
      refresher := some refresher
      agenda := w.agenda.wake false (.run refresher.generation) }

def stop (w : World) : World := { w with refresher := w.refresher.map Refresher.stop }

/-- Calls the owner, if it is still there. -/
def callOwner (w : World) : World :=
  if w.hasOwner then
    let n := w.fired + 1
    let w := { w with fired := n, log := w.log ++ [(w.agenda.now, n)] }
    match w.rearm with
    | [] => w
    | next :: rearm => { w with rearm }.start next
  else w

/-- Runs a task of the refresher: it calls the owner, or ends, or sleeps on. -/
def runTask (w : World) (task : Nat) : World :=
  match w.refresher with
  | none => w
  | some refresher =>
    let (refresher, calls) := refresher.poll w.agenda.now task
    let w := { w with refresher := some refresher }
    if calls then
      let w := w.callOwner
      { w with refresher := w.refresher.map (Refresher.returned task) }
    else
      match refresher.wakesAt? task with
      | some due => { w with agenda := w.agenda.setAlarm due false (.run task) }
      | none => w

def handle (wake : Wake) (w : World) : World :=
  match wake with
  | .run task => w.runTask task
  | .awake => { w with isAsleep := false }

instance : Simulated World Wake where
  agenda := World.agenda
  withAgenda agenda w := { w with agenda }
  handle := handle
  isWaiting := World.isAsleep

def sleep (w : World) (ms : Nat) : World :=
  settle { w with
    isAsleep := true
    agenda := w.agenda.setAlarm (w.agenda.now + ms) true .awake }

end World

inductive Step where
  | start (start : Start)
  | stop
  | sleep (ms : Nat)
  | dropOwner
  | dropTimer
deriving Repr

def runStep (w : World) : Step → World
  | .start start => w.start start
  | .stop => w.stop
  | .sleep ms => w.sleep ms
  | .dropOwner => { w with hasOwner := false }
  | .dropTimer => { w with refresher := none }

/-- Runs the steps of a scenario. -/
def run : World → List Step → List (Entry Nat Unit (Option Timer))
  | _, [] => []
  | w, step :: steps =>
    let w := runStep { w with log := [] } step
    ⟨w.agenda.now, (), w.log, w.refresher.map Refresher.timer⟩ :: run w steps

end ImsClient.Simulation.TimerRun
