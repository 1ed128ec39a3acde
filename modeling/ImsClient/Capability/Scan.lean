import ImsClient.Capability.Snapshot
import ImsClient.Error

/-!
# Scanning contacts

A scan looks at the snapshot of every contact. A contact without one is asked
directly; one whose snapshot is stale is asked by way of its presence if the
snapshot says so, and directly otherwise; a fresh one is left alone. A contact
that cannot be read is passed over, and a request that fails stops nothing.
-/

namespace ImsClient.Capability

abbrev ContactId := String

/-- The first time that a clock of 64 bits shows. -/
def minTime : Int := -9_223_372_036_854_775_808

/-- The last time that a clock of 64 bits shows. -/
def maxTime : Int := 9_223_372_036_854_775_807

/-- The end of the window of a snapshot, as far as the clock can show it. -/
def windowEnd (last window : Int) : Int := max minTime (min maxTime (last + window))

/-- Whether a snapshot is stale: it comes from the future, or its window is over. -/
def needsRefresh (now last window : Int) : Bool := now < last || windowEnd last window < now

/-- For a window that is not negative, and times that the clock shows, the end of the window need
not be cut off. -/
theorem needsRefresh_iff {now last window : Int} (hnow : now ≤ maxTime) (hlast : minTime ≤ last)
    (hwindow : 0 ≤ window) :
    needsRefresh now last window = true ↔ now < last ∨ last + window < now := by
  simp only [minTime, maxTime] at hnow hlast
  have hend : windowEnd last window < now ↔ last + window < now := by
    simp only [windowEnd, minTime, maxTime]
    omega
  simp [needsRefresh, hend]

/-- How a contact is asked. -/
inductive Query where
  | options
  | presence
deriving DecidableEq, Repr, Inhabited

/-- What a scan makes of a contact. -/
inductive Finding where
  | query (query : Query)
  | fresh
  | unreadable
deriving DecidableEq, Repr, Inhabited

/-- What a scan makes of what the store says of a contact. -/
def find (now window : Int) : Except Error (Option Snapshot) → Finding
  | .error _ => .unreadable
  | .ok none => .query .options
  | .ok (some snapshot) =>
    if needsRefresh now snapshot.time window then
      .query (if snapshot.capabilities.presenceDiscovery then .presence else .options)
    else .fresh

/-- What a scan did. -/
structure Report where
  options : List ContactId := []
  presence : List ContactId := []
  fresh : Nat := 0
deriving DecidableEq, Repr, Inhabited

namespace Report

/-- The report with one contact more, who counts as asked whether the request failed or not. -/
def add (report : Report) (contact : ContactId) : Finding → Report
  | .query .options => { report with options := report.options ++ [contact] }
  | .query .presence => { report with presence := report.presence ++ [contact] }
  | .fresh => { report with fresh := report.fresh + 1 }
  | .unreadable => report

end Report

/-- What a scan works with: a clock, a store of contacts, and a way to ask them. Each use may change
the world, so the next one may end in another way. -/
structure Surroundings (World : Type) where
  /-- The time, in milliseconds. -/
  now : World → Int × World
  contacts : World → Except Error (List ContactId) × World
  /-- The snapshot of a contact, if the store has one. -/
  read : ContactId → World → Except Error (Option Snapshot) × World
  request : Query → ContactId → World → Except Error Unit × World

namespace Surroundings

variable {World : Type}

/-- Looks at one contact, and asks it if need be; nothing is done about a request that fails. -/
def visit (s : Surroundings World) (now window : Int) (contact : ContactId) (report : Report)
    (w : World) : Report × World :=
  let (found, w) := s.read contact w
  let finding := find now window found
  let w :=
    match finding with
    | .query query => (s.request query contact w).2
    | .fresh | .unreadable => w
  (report.add contact finding, w)

/-- Looks at contacts one after another. -/
def visitAll (s : Surroundings World) (now window : Int) :
    List ContactId → Report → World → Report × World
  | [], report, w => (report, w)
  | contact :: contacts, report, w =>
    let (report, w) := s.visit now window contact report w
    s.visitAll now window contacts report w

/-- Scans all contacts. The time is that of the beginning for each of them. -/
def scan (s : Surroundings World) (window : Int) (w : World) : Except Error Report × World :=
  let (now, w) := s.now w
  match s.contacts w with
  | (.error e, w) => (.error e, w)
  | (.ok contacts, w) =>
    let (report, w) := s.visitAll now window contacts {} w
    (.ok report, w)

end Surroundings

end ImsClient.Capability
