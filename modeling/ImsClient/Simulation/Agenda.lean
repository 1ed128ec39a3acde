/-!
# Agendas

What a simulated world has yet to do: what is ready to run now, in order, and
what the clock will wake later. One task is in the foreground. Woken by the clock
it runs before all others that wake at that instant; woken by another task it runs
when nothing else is ready. The clock moves only while nothing is ready.
-/

namespace ImsClient.Simulation

/-- A wake-up that the clock will give, at a number of milliseconds. -/
structure Alarm (α : Type) where
  due : Nat
  foreground : Bool
  wake : α
deriving Repr

structure Agenda (α : Type) where
  /-- The milliseconds since the world began. -/
  now : Nat := 0
  ready : List α := []
  /-- What the foreground task does when nothing else is ready. -/
  last : List α := []
  alarms : List (Alarm α) := []
deriving Repr

namespace Agenda

variable {α : Type}

/-- Makes a task ready. -/
def wake (agenda : Agenda α) (foreground : Bool) (wake : α) : Agenda α :=
  if foreground then { agenda with last := agenda.last ++ [wake] }
  else { agenda with ready := agenda.ready ++ [wake] }

/-- Has the clock make a task ready. -/
def setAlarm (agenda : Agenda α) (due : Nat) (foreground : Bool) (wake : α) : Agenda α :=
  { agenda with alarms := agenda.alarms ++ [⟨due, foreground, wake⟩] }

/-- What runs next, if anything is ready. -/
def next? (agenda : Agenda α) : Option (α × Agenda α) :=
  match agenda.ready, agenda.last with
  | wake :: ready, _ => some (wake, { agenda with ready })
  | [], wake :: last => some (wake, { agenda with last })
  | [], [] => none

/-- The first instant that an alarm is set for. -/
def firstDue? (alarms : List (Alarm α)) : Option Nat := (alarms.map Alarm.due).min?

/-- Moves the clock to the next alarm and makes ready what is due there. -/
def advance? (agenda : Agenda α) : Option (Agenda α) :=
  (firstDue? agenda.alarms).map fun due =>
    let fired := agenda.alarms.filter fun alarm => alarm.due ≤ due
    let (front, back) := fired.partition Alarm.foreground
    { now := max agenda.now due
      ready := agenda.ready ++ (front ++ back).map Alarm.wake
      last := agenda.last
      alarms := agenda.alarms.filter fun alarm => due < alarm.due }

end Agenda

/-- How many wake-ups a world is followed for: more than any scenario asks for. -/
def patience : Nat := 1000000000

/-- A world that has an agenda, and what it does when it is woken. -/
class Simulated (σ : Type) (α : outParam Type) where
  agenda : σ → Agenda α
  withAgenda : Agenda α → σ → σ
  handle : α → σ → σ
  /-- Whether the foreground task waits. -/
  isWaiting : σ → Bool

variable {σ α : Type} [Simulated σ α]

open Simulated

/-- Runs what is ready, while the clock stands still. -/
def drain : Nat → σ → σ
  | 0, world => world
  | fuel + 1, world =>
    match (agenda world).next? with
    | some (wake, rest) => drain fuel (handle wake (withAgenda rest world))
    | none => world

/-- Runs what is ready and moves the clock, while the foreground task waits. -/
def follow : Nat → σ → σ
  | 0, world => world
  | fuel + 1, world =>
    if isWaiting world then
      match (agenda world).next? with
      | some (wake, rest) => follow fuel (handle wake (withAgenda rest world))
      | none =>
        match (agenda world).advance? with
        | some later => follow fuel (withAgenda later world)
        | none => world
    else world

/-- Follows a world until the foreground task waits no more. What else is ready by then runs when
tasks are next let run. -/
def await (world : σ) : σ := follow patience world

/-- Follows a world until the foreground task waits no more and nothing else is ready. -/
def settle (world : σ) : σ := drain patience (await world)

/-- One step of a scenario as it came out: when it ended, what it answered, what happened on the
way, and how things stood at its end. -/
structure Entry (ε ρ σ : Type) where
  time : Nat
  result : ρ
  events : List (Nat × ε)
  state : σ
deriving Repr

end ImsClient.Simulation
