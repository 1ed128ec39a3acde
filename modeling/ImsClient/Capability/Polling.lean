import ImsClient.Settings
import ImsClient.Time.Timer

/-!
# Capability polling

While polling runs, a scan of the contacts is made every polling period. A scan
may take any time; the next one is planned when it has ended, unless polling was
stopped meanwhile. A period of zero means that there is no polling.
-/

namespace ImsClient.Capability

structure Polling where
  period : Duration
  running : Bool := false
  timer : Timer := {}
  /-- The rounds whose scan has begun and not ended. -/
  rounds : List Nat := []
deriving DecidableEq, Repr, Inhabited

namespace Polling

def create (settings : Settings) : Polling := { period := settings.pollingTime }

def isEnabled (p : Polling) : Bool := p.period != .zero

/-- Starts polling; its first round is one period away. -/
def start (p : Polling) (now : Instant) : Polling :=
  if p.isEnabled && !p.running then
    { p with running := true, timer := p.timer.start now p.period }
  else p

def stop (p : Polling) : Polling := { p with running := false, timer := p.timer.stop }

/-- Begins a round; it scans if polling runs. -/
def beginRound (p : Polling) (round : Nat) : Polling × Bool :=
  if p.running then ({ p with rounds := round :: p.rounds }, true) else (p, false)

/-- The timer fires and begins a round. -/
def fire (p : Polling) (now : Nat) (round : Nat) : Polling × Bool :=
  match p.timer.fire? now with
  | some timer => { p with timer }.beginRound round
  | none => (p, false)

/-- Ends a round; the next one is planned if polling runs. -/
def endRound (p : Polling) (now : Instant) (round : Nat) : Polling :=
  let p := { p with rounds := p.rounds.erase round }
  if p.running && p.isEnabled then { p with timer := p.timer.start now p.period } else p

def diagnostic (p : Polling) : String :=
  Text.diagnosticRecord "CapabilityPollingManager"
    [("running", if p.running then "true" else "false"),
     ("refresher", p.timer.diagnostic "capability_polling")]

end Polling

end ImsClient.Capability
