import ImsClient.Text.Literal
import ImsClient.Time.Duration

/-!
# Single-shot timers

A timer holds at most one arming: starting it replaces the arming that is
pending, stopping it drops that arming, and an arming that fires is taken out
before the work it is for begins, so that a start or stop during the work
concerns the next arming only.
-/

namespace ImsClient

/-- A point of time, in nanoseconds since the clock started; it may lie before that. -/
abbrev Instant := Int

namespace Instant

/-- The point of time a number of milliseconds after the clock started. -/
def ofMilliseconds (ms : Nat) : Instant := (ms : Int) * 1_000_000

/-- The whole milliseconds since the clock started, cut off toward zero. -/
def wholeMilliseconds (t : Instant) : Int := Int.tdiv t 1_000_000

/-- The first tick of a clock of milliseconds at or after a point of time. -/
def tick (t : Instant) : Int := -((-t) / 1_000_000)

end Instant

/-- What a timer that was started waits for. -/
structure Arming where
  /-- How long after its base the arming fires. -/
  delay : Duration
  /-- When the arming fires. -/
  deadline : Instant
deriving DecidableEq, Repr

/-- A timer with the arming that has neither fired nor been dropped. -/
structure Timer where
  pending : Option Arming := none
deriving DecidableEq, Repr, Inhabited

namespace Timer

/-- Arms the timer for `base + period * factor`, in place of any arming that is pending. -/
def startScaled (base : Instant) (period : Duration) (factor : Time.Factor) (_ : Timer) : Timer :=
  let delay := period.scale factor
  ⟨some ⟨delay, base + delay.nanoseconds⟩⟩

/-- Arms the timer for `base + period`. -/
def start (base : Instant) (period : Duration) (t : Timer) : Timer :=
  t.startScaled base period .one

/-- Drops the pending arming, if there is one. -/
def stop (_ : Timer) : Timer := ⟨none⟩

def isPending (t : Timer) : Bool := t.pending.isSome

/-- How long after its base the pending arming fires. -/
def pendingDelay (t : Timer) : Option Duration := t.pending.map Arming.delay

/-- When the pending arming fires. -/
def pendingDeadline (t : Timer) : Option Instant := t.pending.map Arming.deadline

/-- Whether the pending arming fires at a tick of the clock. -/
def isDue (now : Nat) (t : Timer) : Bool :=
  match t.pending with
  | some arming => arming.deadline.tick ≤ now
  | none => false

/-- Takes out the pending arming if the clock has reached it. -/
def fire? (now : Nat) (t : Timer) : Option Timer :=
  if t.isDue now then some t.stop else none

/-- A timer of a name in a diagnostic. -/
def diagnostic (t : Timer) (name : String) : String :=
  Text.diagnosticRecord "PeriodicRefresher"
    [("name", Text.diagnostic name),
     ("pending", Text.diagnosticOption (t.pendingDelay.map Duration.describe))]

end Timer

end ImsClient
