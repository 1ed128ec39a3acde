import ImsClient.Session.Registry
import ImsClient.Simulation.Agenda

/-!
# Scenarios of registries

A scenario adds sessions to registries that share a tracker, and removes them at
once or later. A removal that is awaited lets those put off before it run first.
-/

namespace ImsClient.Simulation.RegistryRun

open Session (Category Kind Member Registry Tracker)

structure World where
  registries : List Registry
  tracker : Tracker := {}
  /-- Every session that was used; the first use of an id decides what it names. -/
  members : List Member := []
  /-- The removals to come: from which registry, and what. -/
  removals : List (Nat × Member) := []

/-- A member as a step describes it. -/
abbrev Described := Member

inductive Step where
  | add (registry : Nat) (member : Described)
  | addIfAvailable (registry : Nat) (member : Described)
  | remove (registry : Nat) (member : Described)
  | removeLater (registry : Nat) (member : Described)
  | settle
  | get (registry : Nat) (kind : Kind)
  | session (registry : Nat) (kind : Kind)
  | isAvailable (registry : Nat) (categories : List Category)
  | assertAvailable (registry : Nat) (categories : List Category)
  | byCallId (callId : String)
  | bySessionId (id : String)
  | track (member : Described)
  | untrack (member : Described)
  | debug (registry : Nat)
deriving Repr

inductive Result where
  | nothing
  | checked (result : Except Error Unit)
  | member (found : Option Member)
  | session (found : Except Error Member)
  | answer (value : Bool)
  | text (value : String)

namespace World

/-- The session of an id: the one that its first use described. -/
def resolve (w : World) (described : Described) : Member × World :=
  match w.members.find? (·.id = described.id) with
  | some member => (member, w)
  | none => (described, { w with members := w.members ++ [described] })

def registry (w : World) (index : Nat) : Registry := w.registries.getD index default

def setRegistry (w : World) (index : Nat) (registry : Registry) (tracker : Tracker) : World :=
  { w with registries := w.registries.set index registry, tracker }

/-- Adds a session by one of the two ways to add. -/
def addBy (w : World) (index : Nat) (described : Described)
    (add : Registry → Tracker → Member → Except Error (Registry × Tracker)) : Result × World :=
  let (member, w) := w.resolve described
  match add (w.registry index) w.tracker member with
  | .error e => (.checked (.error e), w)
  | .ok (registry, tracker) => (.checked (.ok ()), w.setRegistry index registry tracker)

def removeNow (w : World) (index : Nat) (member : Member) : World :=
  let (registry, tracker) := (w.registry index).remove w.tracker member
  w.setRegistry index registry tracker

/-- Puts off a removal. -/
def removeLater (w : World) (index : Nat) (member : Member) : World :=
  { w with removals := w.removals ++ [(index, member)] }

/-- Carries out the removals that were put off, in their order. -/
def settle (w : World) : World :=
  w.removals.foldl (fun w (index, member) => w.removeNow index member) { w with removals := [] }

end World

/-- Runs one step. -/
def runStep (w : World) : Step → Result × World
  | .add index described => w.addBy index described Registry.add
  | .addIfAvailable index described => w.addBy index described Registry.addIfAvailable
  | .remove index described =>
    let (member, w) := w.resolve described
    (.nothing, (w.removeLater index member).settle)
  | .removeLater index described =>
    let (member, w) := w.resolve described
    (.nothing, w.removeLater index member)
  | .settle => (.nothing, w.settle)
  | .get index kind => (.member ((w.registry index).get? kind), w)
  | .session index kind => (.session ((w.registry index).get kind), w)
  | .isAvailable index categories => (.answer ((w.registry index).isAvailable categories), w)
  | .assertAvailable index categories =>
    (.checked ((w.registry index).assertAvailable categories), w)
  | .byCallId callId => (.member (w.tracker.byCallId? (.given callId)), w)
  | .bySessionId id => (.member (w.tracker.bySessionId? (.given id)), w)
  | .track described =>
    let (member, w) := w.resolve described
    (.nothing, { w with tracker := w.tracker.track member })
  | .untrack described =>
    let (member, w) := w.resolve described
    (.nothing, { w with tracker := w.tracker.untrack member })
  | .debug index => (.text (w.registry index).diagnostic, w)

/-- Runs the steps of a scenario; of the state, the registries and the tracker are shown. -/
def run : World → List Step → List (Entry Unit Result (List Registry × Tracker))
  | _, [] => []
  | w, step :: steps =>
    let (result, w) := runStep w step
    ⟨0, result, [], (w.registries, w.tracker)⟩ :: run w steps

end ImsClient.Simulation.RegistryRun
