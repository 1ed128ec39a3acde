import ImsClient.Time.Timer

/-!
# Refreshers

A refresher keeps a timer with tasks. To start it begins a task that sleeps until the
deadline, under a generation of its own, and puts it into the slot; the task that was
there is aborted. The deadline is worked out first: a start whose delay is too long for a
duration, or whose deadline is too late for the clock, fails and leaves the refresher as it
is. A task that wakes up and finds that the generation has gone on is stale and ends.
Otherwise it leaves the slot before it calls the owner, so that to start or stop the
refresher during the call does not abort the call.
-/

namespace ImsClient

/-- What a start waits for: a period times a factor after a base. -/
def Arming.after (base : Instant) (period : Duration) (factor : Time.Factor) : Arming :=
  let delay := period.scale factor
  ⟨delay, base + delay.nanoseconds⟩

/-- What a start waits for, if there is a duration as long as the delay, and if the deadline is not
after the latest point of time that the clock can tell. -/
def Arming.after? (latest base : Instant) (period : Duration) (factor : Time.Factor) :
    Option Arming :=
  (period.scale? factor).bind fun delay =>
    let deadline : Instant := base + delay.nanoseconds
    if deadline ≤ latest then some ⟨delay, deadline⟩ else none

namespace Refresher

inductive Phase where
  | asleep
  /-- The task calls the owner. -/
  | calling
deriving DecidableEq, Repr

structure Task where
  /-- The generation under which the task began; it names the task. -/
  generation : Nat
  deadline : Instant
  phase : Phase := .asleep
  /-- Whether the task is to end as soon as it is run. -/
  aborted : Bool := false
deriving DecidableEq, Repr

/-- The task that a refresher waits for, and what it was started for. -/
structure Slot where
  task : Nat
  arming : Arming
deriving DecidableEq, Repr

end Refresher

structure Refresher where
  /-- How often the refresher was started or stopped. -/
  generation : Nat := 0
  slot : Option Refresher.Slot := none
  tasks : List Refresher.Task := []
deriving DecidableEq, Repr, Inhabited

namespace Refresher

/-- The timer that a refresher is for others. -/
def timer (r : Refresher) : Timer := ⟨r.slot.map Slot.arming⟩

/-- The tasks, with a change to one of them. -/
def changed (generation : Nat) (change : Task → Task) (r : Refresher) : List Task :=
  r.tasks.map fun task => if task.generation = generation then change task else task

/-- Empties the slot and aborts the task that was there. -/
def abort (r : Refresher) : Refresher :=
  match r.slot with
  | none => r
  | some slot =>
    { r with
      slot := none
      tasks := r.changed slot.task fun task => { task with aborted := true } }

/-- Begins a task for an arming, in place of what is waited for. -/
def arm (arming : Arming) (r : Refresher) : Refresher :=
  let generation := r.generation + 1
  { r.abort with
    generation
    slot := some ⟨generation, arming⟩
    tasks := r.abort.tasks ++ [{ generation, deadline := arming.deadline }] }

/-- Waits for `base + period * factor`, in place of what is waited for, or fails. -/
def startScaled? (latest base : Instant) (period : Duration) (factor : Time.Factor)
    (r : Refresher) : Option Refresher :=
  (Arming.after? latest base period factor).map fun arming => r.arm arming

/-- Waits for `base + period`, for a period that is neither too long nor ends too late. -/
def start (base : Instant) (period : Duration) (r : Refresher) : Refresher :=
  r.arm (.after base period .one)

/-- Waits for nothing any more. -/
def stop (r : Refresher) : Refresher := { r with generation := r.generation + 1 }.abort

def task? (generation : Nat) (r : Refresher) : Option Task :=
  r.tasks.find? (·.generation = generation)

/-- The refresher without a task. -/
def without (generation : Nat) (r : Refresher) : Refresher :=
  { r with tasks := r.tasks.filter (·.generation ≠ generation) }

/-- Has a task leave the slot to call the owner. -/
def detach (generation : Nat) (r : Refresher) : Refresher :=
  { r with
    slot := none
    tasks := r.changed generation fun task => { task with phase := .calling } }

/-- Runs a task at a tick of the clock, and tells whether it begins to call the owner. -/
def poll (now : Nat) (generation : Nat) (r : Refresher) : Refresher × Bool :=
  match r.task? generation with
  | none => (r, false)
  | some task =>
    if task.aborted then (r.without generation, false)
    else
      match task.phase with
      | .calling => (r, false)
      | .asleep =>
        if task.deadline.tick ≤ now then
          if r.generation = generation then (r.detach generation, true)
          else (r.without generation, false)
        else (r, false)

/-- The call that a task made is over, and so is the task. -/
def returned (generation : Nat) (r : Refresher) : Refresher :=
  match r.task? generation with
  | some { phase := .calling, .. } => r.without generation
  | _ => r

/-- When a task wakes up, if it sleeps. -/
def wakesAt? (generation : Nat) (r : Refresher) : Option Nat :=
  match r.task? generation with
  | some { deadline, phase := .asleep, aborted := false, .. } => some deadline.tick.toNat
  | _ => none

end Refresher

end ImsClient
