import ImsClient.Engine
import ImsClient.Proofs.Session.Registries
import Mathlib.Data.List.Induction

/-!
# Two registries with one tracker

A client keeps its chats and its file transfers in a registry each, and both use
one tracker. A run offers sessions to the registries and asks for removals; a
removal is carried out at some later point, whatever was asked for or carried out
in between.
-/

namespace ImsClient.Session

/-- The services that keep sessions. -/
inductive Keeper where
  | chats
  | files
deriving DecidableEq, Repr

namespace Registries

/-- The registry of the chats. -/
def chats (r : Registries Keeper) : Registry := r.registry .chats

/-- The registry of the file transfers. -/
def files (r : Registries Keeper) : Registry := r.registry .files

/-- The sessions that either registry holds. -/
def members (r : Registries Keeper) : List Member := r.chats.sessions ++ r.files.sessions

/-- They are all that is held. -/
theorem mem_members_iff {r : Registries Keeper} {member : Member} :
    member ∈ r.members ↔ r.Holds member := by
  rw [members, List.mem_append]
  constructor
  · rintro (hchats | hfiles)
    · exact ⟨.chats, hchats⟩
    · exact ⟨.files, hfiles⟩
  · rintro ⟨_ | _, hmember⟩
    · exact .inl hmember
    · exact .inr hmember

end Registries

/-- Both registries, the tracker that they share, and the removals to come. -/
structure Switchboard extends Registries Keeper where
  removals : List (Keeper × Member) := []

namespace Switchboard

inductive Event where
  /-- A session is offered to a service; if checked, it is taken only if there is room for it. -/
  | offered (keeper : Keeper) (checked : Bool) (member : Member)
  /-- A session is to be removed. -/
  | dismissed (keeper : Keeper) (member : Member)
  /-- The removal at a place among those to come is carried out. -/
  | carriedOut (place : Nat)
deriving DecidableEq, Repr

/-- The events that happen to a switchboard, the first one first. -/
abbrev History := List Event

/-- The switchboard of a client. -/
def ofEngine (e : Engine) : Switchboard where
  registry
    | .chats => e.chats
    | .files => e.files
  tracker := e.tracker

/-- No session was taken yet. -/
structure IsEmpty (b : Switchboard) : Prop where
  chats : b.chats.sessions = []
  files : b.files.sessions = []
  tracker : b.tracker = {}
  removals : b.removals = []

/-- The switchboard of a client that is built of its parts is empty. -/
theorem isEmpty_ofEngine (settings : Settings) (bound : Endpoint)
    (procedure : Registration.Procedure) :
    (ofEngine (.ofProcedure settings bound procedure)).IsEmpty :=
  ⟨rfl, rfl, rfl, rfl⟩

/-- The switchboard after an event of its registries. -/
def withRegistries (b : Switchboard) (event : Registries.Event Keeper) : Switchboard :=
  { b with toRegistries := (b.toRegistries.step event).1 }

/-- What an event does, and the error that whoever offered a session is told of. -/
def step (b : Switchboard) : Event → Switchboard × Option Error
  | .offered keeper checked member =>
    (b.withRegistries (.offered keeper checked member),
      (b.toRegistries.step (.offered keeper checked member)).2)
  | .dismissed keeper member => ({ b with removals := b.removals ++ [(keeper, member)] }, none)
  | .carriedOut place =>
    match b.removals[place]? with
    | some (keeper, member) =>
      ({ b with removals := b.removals.eraseIdx place }.withRegistries (.removed keeper member),
        none)
    | none => (b, none)

/-- What an event makes of a switchboard. -/
def next (b : Switchboard) (event : Event) : Switchboard := (b.step event).1

/-- The switchboard after a run. -/
def after (b : Switchboard) (history : History) : Switchboard := Run.after next b history

@[simp] theorem after_nil (b : Switchboard) : b.after [] = b := rfl

/-- One more event takes the switchboard one step further. -/
theorem after_concat (b : Switchboard) (history : History) (event : Event) :
    b.after (history ++ [event]) = ((b.after history).step event).1 :=
  Run.after_concat b history event

end Switchboard

end ImsClient.Session
