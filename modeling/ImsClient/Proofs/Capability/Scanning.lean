import ImsClient.Capability.Scan
import Mathlib.Data.List.Basic

/-!
# A scan passes over no contact

The calls that a scan makes on its surroundings are written down, each with what it gave
back. They fall into one visit for each contact of the list, in order: the snapshot of the
contact is read, and if there is none or a stale one the contact is asked, once and in one
way. The report counts these visits by what was found, however the requests ended.
-/

namespace ImsClient.Capability

/-! ### What a visit is -/

/-- A time that a clock of 64 bits shows. -/
def IsTime (time : Int) : Prop := minTime ≤ time ∧ time ≤ maxTime

/-- A snapshot that comes from the future, or whose window is over, however far the window goes. -/
def Snapshot.IsStale (snapshot : Snapshot) (now window : Int) : Prop :=
  now < snapshot.time ∨ snapshot.time + window < now

instance (snapshot : Snapshot) (now window : Int) : Decidable (snapshot.IsStale now window) :=
  inferInstanceAs (Decidable (_ ∨ _))

/-- A call that is made for one contact, with what it gave back. -/
inductive Call where
  | read (contact : ContactId) (found : Except Error (Option Snapshot))
  | requested (query : Query) (contact : ContactId) (reply : Except Error Unit)
deriving Repr

/-- The contacts that were asked in one way, in order. -/
def asked (query : Query) (calls : List Call) : List ContactId :=
  calls.filterMap fun
    | .requested other contact _ => if other = query then some contact else none
    | .read .. => none

/-- A contact of the list, when its turn comes. -/
structure Visit where
  contact : ContactId
  found : Except Error (Option Snapshot)
  /-- How a request ends, if the contact is asked. -/
  reply : Except Error Unit

namespace Visit

/-- What is to be made of the contact. -/
def finding (now window : Int) (visit : Visit) : Finding :=
  match visit.found with
  | .error _ => .unreadable
  | .ok none => .query .options
  | .ok (some snapshot) =>
    if snapshot.IsStale now window then
      .query (if snapshot.capabilities.presenceDiscovery then .presence else .options)
    else .fresh

/-- The calls that are to be made. -/
def calls (now window : Int) (visit : Visit) : List Call :=
  .read visit.contact visit.found ::
    match visit.finding now window with
    | .query query => [.requested query visit.contact visit.reply]
    | .fresh | .unreadable => []

/-- For times that the clock shows, a scan makes of a contact what is to be made of it. -/
theorem finding_eq_find {now window : Int} (hnow : IsTime now) (hwindow : 0 ≤ window)
    {visit : Visit} (htime : ∀ snapshot, visit.found = .ok (some snapshot) → IsTime snapshot.time) :
    visit.finding now window = find now window visit.found := by
  unfold finding find
  cases hfound : visit.found with
  | error e => rfl
  | ok found =>
    cases found with
    | none => rfl
    | some snapshot =>
      have hstale : needsRefresh now snapshot.time window = true ↔ snapshot.IsStale now window :=
        needsRefresh_iff hnow.2 (htime snapshot hfound).1 hwindow
      exact if_congr hstale.symm rfl rfl

end Visit

/-- The visits by which contacts were asked in one way are those in which this was due. -/
theorem asked_flatMap (query : Query) (now window : Int) (visits : List Visit) :
    asked query (visits.flatMap (Visit.calls now window)) =
      (visits.filter (·.finding now window = .query query)).map Visit.contact := by
  induction visits with
  | nil => rfl
  | cons visit visits ih =>
    have hfirst : asked query (visit.calls now window) =
        if visit.finding now window = .query query then [visit.contact] else [] := by
      unfold asked Visit.calls
      cases hfinding : visit.finding now window with
      | query other => by_cases hother : other = query <;> simp [hother]
      | fresh => simp
      | unreadable => simp
    rw [List.flatMap_cons, asked, List.filterMap_append, ← asked, ← asked, ih, hfirst,
      List.filter_cons]
    by_cases hdue : visit.finding now window = .query query <;> simp [hdue]

namespace Report

variable {now window : Int}

/-- The report of visits. -/
def ofVisits (now window : Int) (visits : List Visit) : Report where
  options := (visits.filter (·.finding now window = .query .options)).map Visit.contact
  presence := (visits.filter (·.finding now window = .query .presence)).map Visit.contact
  fresh := visits.countP (·.finding now window = .fresh)

/-- One visit more is one finding more. -/
theorem ofVisits_concat (visits : List Visit) (visit : Visit) :
    ofVisits now window (visits ++ [visit]) =
      (ofVisits now window visits).add visit.contact (visit.finding now window) := by
  unfold ofVisits
  rw [List.filter_append, List.filter_append, List.countP_append, List.filter_singleton,
    List.filter_singleton, List.countP_singleton]
  cases hfinding : visit.finding now window with
  | query query => cases query <;> simp [add]
  | fresh => simp [add]
  | unreadable => simp [add]

/-- Every contact is found in one of four ways. -/
theorem length_ofVisits (visits : List Visit) :
    (ofVisits now window visits).options.length + (ofVisits now window visits).presence.length +
        (ofVisits now window visits).fresh + visits.countP (·.finding now window = .unreadable) =
      visits.length := by
  simp only [ofVisits, List.length_map, ← List.countP_eq_length_filter]
  induction visits with
  | nil => rfl
  | cons visit visits ih =>
    simp only [List.countP_cons, List.length_cons]
    cases hfinding : visit.finding now window with
    | query query => cases query <;> simp <;> omega
    | fresh => simp; omega
    | unreadable => simp; omega

/-- A report tells what visits have come to, and which calls were made for them. -/
structure IsAccountOf (report : Report) (now window : Int) (visits : List Visit)
    (calls : List Call) : Prop where
  made : calls = visits.flatMap (Visit.calls now window)
  options : report.options = asked .options calls
  presence : report.presence = asked .presence calls
  fresh : report.fresh = visits.countP (·.finding now window = .fresh)
  total : report.options.length + report.presence.length + report.fresh +
    visits.countP (·.finding now window = .unreadable) = visits.length

theorem isAccountOf_ofVisits (visits : List Visit) :
    (ofVisits now window visits).IsAccountOf now window visits
      (visits.flatMap (Visit.calls now window)) where
  made := rfl
  options := (asked_flatMap .options now window visits).symm
  presence := (asked_flatMap .presence now window visits).symm
  fresh := rfl
  total := length_ofVisits visits

end Report

/-! ### The calls of a scan -/

namespace Surroundings

variable {World : Type} {s : Surroundings World} {now window : Int} {w w' : World}

/-- Without a list of the contacts there is no scan. -/
theorem scan_of_error {e : Error} (hlisted : s.contacts (s.now w).2 = (.error e, w')) :
    s.scan window w = (.error e, w') := by
  simp only [scan, hlisted]

/-- With a list of them, each is looked at. -/
theorem scan_of_ok {contacts : List ContactId}
    (hlisted : s.contacts (s.now w).2 = (.ok contacts, w')) :
    s.scan window w = ((s.visitAll (s.now w).1 window contacts {} w').map .ok id) := by
  simp only [scan, hlisted, Prod.map, id]

/-- The surroundings with a record of the calls. -/
def recorded (s : Surroundings World) : Surroundings (World × List Call) where
  now := fun (w, calls) =>
    let (now, w) := s.now w
    (now, w, calls)
  contacts := fun (w, calls) =>
    let (contacts, w) := s.contacts w
    (contacts, w, calls)
  read contact := fun (w, calls) =>
    let (found, w) := s.read contact w
    (found, w, calls ++ [.read contact found])
  request query contact := fun (w, calls) =>
    let (reply, w) := s.request query contact w
    (reply, w, calls ++ [.requested query contact reply])

/-- The calls that a scan makes for the contacts. -/
def calls (s : Surroundings World) (window : Int) (w : World) : List Call :=
  (s.recorded.scan window (w, [])).2.2

/-- All times are times that the clock shows. -/
structure Timely (s : Surroundings World) : Prop where
  now : ∀ w, IsTime (s.now w).1
  read : ∀ contact w snapshot, (s.read contact w).1 = .ok (some snapshot) → IsTime snapshot.time

namespace Timely

/-- With its turn a contact has one visit: it is read and, if that is due, asked. -/
theorem visit (h : s.Timely) (hnow : IsTime now) (hwindow : 0 ≤ window) (contact : ContactId)
    (report : Report) (w : World) (calls : List Call) :
    ∃ visit : Visit, visit.contact = contact ∧
      (s.visit now window contact report w).1 =
        report.add contact (visit.finding now window) ∧
      s.recorded.visit now window contact report (w, calls) =
        ((s.visit now window contact report w).1, (s.visit now window contact report w).2,
          calls ++ visit.calls now window) := by
  let found := s.read contact w
  let reply : Except Error Unit :=
    match find now window found.1 with
    | .query query => (s.request query contact found.2).1
    | .fresh | .unreadable => .ok ()
  have hfinding : (⟨contact, found.1, reply⟩ : Visit).finding now window =
      find now window found.1 :=
    Visit.finding_eq_find hnow hwindow (h.read contact w)
  refine ⟨⟨contact, found.1, reply⟩, rfl, ?_, ?_⟩
  · rw [hfinding]
    rfl
  · simp only [Surroundings.visit, recorded, Visit.calls, hfinding, reply]
    cases find now window found.1 <;> simp [found]

/-- The contacts have a visit each. The induction is on those to come, after any visits. -/
theorem visitAll (h : s.Timely) (hnow : IsTime now) (hwindow : 0 ≤ window)
    (contacts : List ContactId) (before : List Visit) (w : World) (calls : List Call) :
    ∃ visits : List Visit, visits.map Visit.contact = contacts ∧
      (s.visitAll now window contacts (.ofVisits now window before) w).1 =
        .ofVisits now window (before ++ visits) ∧
      s.recorded.visitAll now window contacts (.ofVisits now window before) (w, calls) =
        ((s.visitAll now window contacts (.ofVisits now window before) w).1,
          (s.visitAll now window contacts (.ofVisits now window before) w).2,
          calls ++ visits.flatMap (Visit.calls now window)) := by
  induction contacts generalizing before w calls with
  | nil => exact ⟨[], rfl, by simp [Surroundings.visitAll], by simp [Surroundings.visitAll]⟩
  | cons contact contacts ih =>
    obtain ⟨visit, rfl, hreport, hrecorded⟩ :=
      h.visit hnow hwindow contact (.ofVisits now window before) w calls
    rw [← Report.ofVisits_concat] at hreport
    generalize hafter :
      s.visit now window visit.contact (.ofVisits now window before) w = after at *
    obtain ⟨report, w'⟩ := after
    obtain rfl : report = _ := hreport
    obtain ⟨visits, rfl, hreports, hrest⟩ :=
      ih (before ++ [visit]) w' (calls ++ visit.calls now window)
    refine ⟨visit :: visits, rfl, ?_, ?_⟩
    · simpa [Surroundings.visitAll, hafter] using hreports
    · simp [Surroundings.visitAll, hafter, hrecorded, hrest]

end Timely

/-- **A scan finds each contact in one of four ways, and asks those for which that is due.** In
whatever surroundings, which may fail and change with each use, and for a window that is not
negative: to write its calls down changes nothing about a scan. It fails exactly if the contacts
cannot be listed, and has then called on none of them. Otherwise the calls are those of one visit
for each contact of the list, in order; the report tells the contacts that were asked, in order and
for each way to ask, and how many were fresh; with those that could not be read, this makes up the
list. -/
theorem scan_accounts_for_contacts (hs : s.Timely) (hwindow : 0 ≤ window) (w : World) :
    (s.recorded.scan window (w, [])).1 = (s.scan window w).1 ∧
    (s.recorded.scan window (w, [])).2.1 = (s.scan window w).2 ∧
    (∀ e, (s.contacts (s.now w).2).1 = .error e →
      (s.scan window w).1 = .error e ∧ s.calls window w = []) ∧
    ∀ contacts, (s.contacts (s.now w).2).1 = .ok contacts →
      ∃ report visits, (s.scan window w).1 = .ok report ∧ visits.map Visit.contact = contacts ∧
        report.IsAccountOf (s.now w).1 window visits (s.calls window w) := by
  unfold calls
  obtain ⟨listed, w', hlisted⟩ : ∃ listed w', s.contacts (s.now w).2 = (listed, w') := ⟨_, _, rfl⟩
  have hlisted' : s.recorded.contacts (s.recorded.now (w, [])).2 = (listed, w', []) := by
    simp only [recorded, hlisted]
  cases listed with
  | error e =>
    rw [scan_of_error hlisted, scan_of_error hlisted', hlisted]
    refine ⟨rfl, rfl, ?_, by simp⟩
    rintro _ ⟨⟩
    exact ⟨rfl, rfl⟩
  | ok contacts =>
    rw [scan_of_ok hlisted, scan_of_ok hlisted', hlisted]
    obtain ⟨visits, hvisits, hreport, hcalls⟩ :=
      hs.visitAll (hs.now w) hwindow contacts [] w' []
    change s.recorded.visitAll (s.recorded.now (w, [])).1 window contacts {} (w', []) = _ at hcalls
    rw [hcalls]
    refine ⟨rfl, rfl, by simp, ?_⟩
    rintro _ ⟨⟩
    exact ⟨_, visits, congrArg Except.ok hreport, hvisits, Report.isAccountOf_ofVisits visits⟩

/-- A store at the end of all time, for the example: one contact stands twice on its list, and can
be read the second time only. The world counts the readings. -/
def sampleSurroundings : Surroundings Nat where
  now w := (maxTime, w)
  contacts w := (.ok ["new", "flaky", "flaky", "seen", "mute"], w)
  read contact w :=
    let found :=
      if contact = "new" then .ok none
      else if contact = "seen" then .ok (some ⟨{}, maxTime - 1⟩)
      else if contact = "mute" then .ok (some ⟨{}, -1⟩)
      else if w = 1 then .error (.internal "unreadable")
      else .ok (some ⟨{ presenceDiscovery := true }, minTime⟩)
    (found, w + 1)
  request _ contact w := (if contact = "mute" then .error (.transport "unreachable") else .ok (), w)

/-- In the example, of five contacts two are asked directly, one of which does not answer, one is
asked by way of its presence, one is fresh though its window goes beyond all time, and one is
unreadable. -/
theorem five_contacts_accounted_for_in_sample :
    let report : Report := { options := ["new", "mute"], presence := ["flaky"], fresh := 1 }
    sampleSurroundings.Timely ∧ 0 ≤ maxTime ∧
      (sampleSurroundings.scan maxTime 0).1 = .ok report ∧
      ∃ visits, visits.map Visit.contact = ["new", "flaky", "flaky", "seen", "mute"] ∧
        report.IsAccountOf maxTime maxTime visits (sampleSurroundings.calls maxTime 0) := by
  intro report
  have htimely : sampleSurroundings.Timely := by
    refine ⟨fun _ => show IsTime maxTime from ⟨by decide, by decide⟩, ?_⟩
    intro contact w snapshot hread
    simp only [sampleSurroundings] at hread
    split_ifs at hread <;> cases hread <;> exact ⟨by decide, by decide⟩
  have hscan : (sampleSurroundings.scan maxTime 0).1 = .ok report := by rfl
  obtain ⟨-, -, -, hscanned⟩ := scan_accounts_for_contacts htimely (by decide : 0 ≤ maxTime) 0
  obtain ⟨_, visits, hreport, hvisits, haccount⟩ := hscanned _ rfl
  obtain rfl := Except.ok.inj (hreport.symm.trans hscan)
  exact ⟨htimely, by decide, hscan, visits, hvisits, haccount⟩

end Surroundings

end ImsClient.Capability
