import ImsClient.Proofs.Session.Commitment
import ImsClient.Proofs.Session.Decision
import ImsClient.Simulation.Session

/-!
# The answer to a re-INVITE

A re-INVITE that is received rings until the user decides, or until the ringing time is
over. Here the session runs together with its clock: the decision that there is then
settles the answer, and what the task does afterwards depends on what it hears.
-/

namespace ImsClient

/-- In a simulated world, what comes of an ACK that is awaited for a time comes within that time,
and the ACK itself does exactly if it arrives by then. -/
theorem Simulation.SessionRun.World.perform_awaitAck (w : World) (task : Session.TaskId)
    (callId : Identifier) (cSeq : Nat) (patience : Duration) :
    ∃ delay delivery,
      w.perform (.awaitAck task callId cSeq patience) =
        (w.note (.awaitedAck callId cSeq)).deliver task delay (.confirmed task delivery) ∧
      delay ≤ patience.wholeMilliseconds ∧
      (delivery = .done () ↔ w.carriage.waitAck = .ok ∨
        ∃ ms, w.carriage.waitAck = .after ms ∧ ms ≤ patience.wholeMilliseconds) := by
  have hcarriage : (w.note (.awaitedAck callId cSeq)).carriage = w.carriage := rfl
  cases hack : w.carriage.waitAck with
  | ok =>
    refine ⟨0, .done (), ?_, Nat.zero_le _, by simp⟩
    simp only [perform, hcarriage, hack, deliver, if_true]
  | error =>
    refine ⟨0, .failure (.transport "wait_ack failed"), ?_, Nat.zero_le _, by simp⟩
    simp only [perform, hcarriage, hack, deliver, if_true]
  | never =>
    refine ⟨patience.wholeMilliseconds, .none, ?_, Nat.le_refl _, by simp⟩
    simp only [perform, hcarriage, hack]
  | after ms =>
    by_cases hintime : ms ≤ patience.wholeMilliseconds
    · refine ⟨ms, .done (), ?_, hintime, by simp [hintime]⟩
      simp only [perform, hcarriage, hack, hintime, if_true]
    · refine ⟨patience.wholeMilliseconds, .none, ?_, Nat.le_refl _, by simp [hintime]⟩
      simp only [perform, hcarriage, hack, hintime, if_false]

namespace Session

open Service (Settled tally)

namespace Clocked

variable {c : Clocked} {task : TaskId} {deadline : Instant} {request : Sip.Request}
  {reply : Description} {context : Context}

/-! ### The acts of a run -/

/-- What is done to the session along a run, each act at its time. -/
def acts (c : Clocked) (history : List Moment) : List Act :=
  Run.along next (fun c moment => (moment.act? (.ofMilliseconds c.now)).toList) c history

/-- What a task hears at a moment. -/
def hears (c : Clocked) (task : TaskId) (moment : Moment) : List Hearing :=
  match moment.act? (.ofMilliseconds c.now) with
  | some act => c.session.hears task act
  | none => []

/-- A moment at which an act is done. -/
theorem step_of_act {moment : Moment} {act : Act}
    (hact : moment.act? (.ofMilliseconds c.now) = some act) :
    (c.step moment).1 = { c with session := (c.session.act act).1 } := by
  simp only [step, hact]

/-- Only the clock does nothing to the session. -/
theorem eq_ticked {moment : Moment} {now : Instant} (hact : moment.act? now = none) :
    moment = .ticked := by
  cases moment with
  | ticked => rfl
  | created | prepared | accepted | rejected | moved | happened => cases hact

/-- A moment adds the act that it does, if it does one. -/
theorem acts_cons (c : Clocked) (moment : Moment) (rest : List Moment) :
    c.acts (moment :: rest) =
      (moment.act? (.ofMilliseconds c.now)).toList ++ (c.step moment).1.acts rest := rfl

/-- The acts of runs one after another. -/
theorem acts_append (c : Clocked) (first rest : List Moment) :
    c.acts (first ++ rest) = c.acts first ++ (c.after first).acts rest :=
  Run.along_append c first rest

/-- The acts of a run lead the session where the run does. -/
theorem session_after (c : Clocked) (history : List Moment) :
    (c.after history).session = c.session.after (c.acts history) := by
  induction history generalizing c with
  | nil => rfl
  | cons moment history ih =>
    rw [after_cons, ih, acts_cons]
    cases hact : moment.act? (.ofMilliseconds c.now) with
    | none =>
      rw [eq_ticked hact]
      rfl
    | some act =>
      rw [step_of_act hact]
      rfl

/-- An act of a run is done at some moment of it. -/
theorem split_of_acts {history : List Moment} {before rest : List Act} {act : Act}
    (hacts : c.acts history = before ++ act :: rest) :
    ∃ earlier moment later, history = earlier ++ moment :: later ∧ c.acts earlier = before ∧
      moment.act? (.ofMilliseconds (c.after earlier).now) = some act := by
  induction history generalizing c before with
  | nil => simp [acts] at hacts
  | cons moment history ih =>
    rw [acts_cons] at hacts
    cases hact : moment.act? (.ofMilliseconds c.now) with
    | none =>
      rw [hact, Option.toList_none, List.nil_append] at hacts
      obtain ⟨earlier, found, later, rfl, hearlier, hfound⟩ := ih hacts
      refine ⟨moment :: earlier, found, later, rfl, ?_, hfound⟩
      rw [acts_cons, hact, Option.toList_none, List.nil_append, hearlier]
    | some other =>
      rw [hact, Option.toList_some, List.singleton_append] at hacts
      cases before with
      | nil =>
        cases hacts
        exact ⟨[], moment, history, rfl, rfl, hact⟩
      | cons first before =>
        obtain ⟨rfl, htail⟩ := List.cons.inj hacts
        obtain ⟨earlier, found, later, rfl, hearlier, hfound⟩ := ih htail
        refine ⟨moment :: earlier, found, later, rfl, ?_, hfound⟩
        rw [acts_cons, hact, Option.toList_some, List.singleton_append, hearlier]

/-- A task begins by an act of a run only if it begins at a moment of it. -/
theorem not_begins_of_mem_acts {history : List Moment}
    (hhistory : ∀ moment ∈ history, ¬ moment.Begins task) :
    ∀ act ∈ c.acts history, ¬ act.Begins task := by
  intro act hact hbegins
  obtain ⟨before, rest, hacts⟩ := List.append_of_mem hact
  obtain ⟨earlier, moment, later, rfl, _, hfound⟩ := split_of_acts hacts
  obtain ⟨now, event, rfl, hbegins, htask⟩ := hbegins
  cases moment with
  | happened other =>
    cases hfound
    exact hhistory (.happened event) (by simp) ⟨event, rfl, hbegins, htask⟩
  | ticked | created | prepared | accepted | rejected | moved => cases hfound

/-- The deadline of a task is not passed as long as it stays where it is. -/
theorem inTime_after {history : List Moment} {stage : Stage}
    (hstage : ∀ first, first <+: c.acts history →
      (c.session.after first).stage? task = some stage)
    (hdeadline : stage.deadline? = some deadline) (hinTime : (c.now : Int) ≤ deadline.tick) :
    ((c.after history).now : Int) ≤ deadline.tick := by
  induction history generalizing c with
  | nil => exact hinTime
  | cons moment history ih =>
    have hhere : c.session.stage? task = some stage := hstage [] (List.nil_prefix ..)
    rw [acts_cons] at hstage
    cases hact : moment.act? (.ofMilliseconds c.now) with
    | none =>
      obtain rfl := eq_ticked hact
      exact ih hstage (inTime_ticked hhere hdeadline hinTime)
    | some act =>
      rw [hact] at hstage
      rw [after_cons, step_of_act hact]
      rw [step_of_act hact] at hstage
      exact ih (fun first hfirst => hstage (act :: first) (List.cons_prefix_cons.mpr ⟨rfl, hfirst⟩))
        hinTime

/-! ### A re-INVITE that rings -/

/-- At a tick of the clock, a wait is over if there is a decision or its time is over. -/
theorem isDecided_iff (s : Service) (ms : Nat) (deadline : Instant) :
    s.isDecided (.ofMilliseconds ms) deadline = true ↔
      s.answer ≠ .notAnswered ∨ deadline.tick ≤ (ms : Int) := by
  simp [Service.isDecided]

/-- The session at the same time, with a task that waits for the decision from now on. -/
def ringing (c : Clocked) (task : TaskId) (request : Sip.Request) (reply : Description)
    (context : Context) : Clocked :=
  { c with
    session := c.session.withTask task (.deciding request reply context
      (.ofMilliseconds c.now + c.session.settings.ringingTime.nanoseconds)) }

/-- A task that rings waits for the decision. -/
theorem stage?_ringing (c : Clocked) (task : TaskId) (request : Sip.Request) (reply : Description)
    (context : Context) :
    (c.ringing task request reply context).session.stage? task =
      some (.deciding request reply context
        (.ofMilliseconds c.now + c.session.settings.ringingTime.nanoseconds)) := by
  simp [ringing]

/-- A re-INVITE that is received rings, and its task looks at the decision at once. -/
theorem step_received (c : Clocked) (task : TaskId) (request : Sip.Request) (reply : Description)
    (context : Context) :
    (c.step (.happened (.received task request reply context))).1 =
        ((c.ringing task request reply context).step (.happened (.looked task))).1 ∧
      c.hears task (.happened (.received task request reply context)) =
        (c.ringing task request reply context).hears task (.happened (.looked task)) := by
  obtain ⟨hact, hhears⟩ :=
    c.session.received_eq task request reply context (.ofMilliseconds c.now)
  refine ⟨?_, hhears⟩
  rw [step_of_act rfl, step_of_act rfl, hact]
  rfl

/-- While a re-INVITE rings, its task rests, or it looks when there is a decision or the time is
over, and that settles the answer. -/
theorem ringing_course (c : Clocked) (task : TaskId) (request : Sip.Request) (reply : Description)
    (context : Context) {history : List Moment}
    (hhistory : ∀ moment ∈ history, ¬ moment.Begins task) :
    let d := c.ringing task request reply context
    let due := c.due c.session.settings.ringingTime
    d.session.Rests task (d.acts history) ∧ ((d.after history).now : Int) ≤ due ∨
      ∃ before later, history = before ++ .happened (.looked task) :: later ∧
        d.session.Rests task (d.acts before) ∧ ((d.after before).now : Int) ≤ due ∧
        ((d.after before).session.answer = .notAnswered → ((d.after before).now : Int) = due) ∧
        (d.after before).hears task (.happened (.looked task)) =
          [.decision (d.after before).session.answer] ∧
        Settled request context (d.after before).session.answer (d.after before).session.dialog
          (d.session.heard task (d.acts history))
          (tally (d.session.log task (d.acts history))) := by
  intro d due
  have hstage := c.stage?_ringing task request reply context
  have hdue : (d.now : Int) ≤ due := Instant.le_tick_add c.now _
  have hinTime {first : List Moment} (hrests : d.session.Rests task (d.acts first)) :
      ((d.after first).now : Int) ≤ due :=
    inTime_after (fun part hpart => (hrests.throughout part hpart).trans hstage) rfl hdue
  rcases Service.deciding_course hstage (not_begins_of_mem_acts hhistory) with
    hrests | ⟨before, now, rest, hacts, hrests, hdecided, hsettled⟩
  · exact .inl ⟨hrests, hinTime hrests⟩
  · obtain ⟨earlier, moment, later, rfl, rfl, hmoment⟩ := split_of_acts hacts
    obtain rfl : moment = .happened (.looked task) := by
      cases moment with
      | happened event =>
        cases hmoment
        rfl
      | ticked | created | prepared | accepted | rejected | moved => cases hmoment
    obtain rfl : .ofMilliseconds (d.after earlier).now = now := by
      cases hmoment
      rfl
    rw [← session_after] at hdecided hsettled
    have hthere : (d.after earlier).session.stage? task = d.session.stage? task := by
      rw [session_after]
      exact hrests.stays
    refine .inr ⟨earlier, later, rfl, hrests, hinTime hrests, fun hnone => ?_, ?_, hsettled⟩
    · have hover := (isDecided_iff ..).mp hdecided
      exact Int.le_antisymm (hinTime hrests) (hover.resolve_left fun h => h hnone)
    · have hhears := (Service.step_of_decided (hthere.trans hstage) hdecided).2
      rwa [← Service.hears_happened (show (Event.looked task).task = task from rfl)] at hhears

/-- A run that begins with a re-INVITE is one that begins with its first look. -/
theorem ringing_run (c : Clocked) (task : TaskId) (request : Sip.Request) (reply : Description)
    (context : Context) (rest : List Moment) :
    let received : Moment := .happened (.received task request reply context)
    let d := c.ringing task request reply context
    c.after (received :: rest) = d.after (.happened (.looked task) :: rest) ∧
      c.session.log task (c.acts (received :: rest)) =
        d.session.log task (d.acts (.happened (.looked task) :: rest)) ∧
      c.session.heard task (c.acts (received :: rest)) =
        d.session.heard task (d.acts (.happened (.looked task) :: rest)) := by
  intro received d
  have hstep := (c.step_received task request reply context).1
  refine ⟨congrArg (after · rest) hstep, ?_⟩
  have hacts : d.acts (.happened (.looked task) :: rest) =
      .happened (.ofMilliseconds c.now) (.looked task) :: (c.step received).1.acts rest :=
    congrArg (fun e => _ :: acts e rest) hstep.symm
  rw [hacts]
  exact c.session.course_of_received task request reply context (.ofMilliseconds c.now) _

/-- In a run in which a task answers, it changes the dialog only at the moment at which it hears
that the user accepted. -/
theorem dialog_of_answering (before : List Moment) {later : List Moment} {event : Event}
    (hstage : ∀ stage ∈ c.session.stage? task, stage.IsAnswering)
    (hbegins : ∀ moment ∈ before ++ .happened event :: later, ¬ moment.Begins task)
    (hmine : event.task = task) :
    ((c.after before).step (.happened event)).1.session.dialog = (c.after before).session.dialog ∨
      (c.after before).hears task (.happened event) = [.decision .accepted] := by
  have hacts := not_begins_of_mem_acts (c := c) hbegins
  rw [acts_append] at hacts
  have hdialog := Service.dialog_of_answering hstage hacts (congrArg some hmine)
  rwa [← session_after] at hdialog

/-- **The decision settles the answer to a re-INVITE.** A re-INVITE is received on a session, with
or without a dialog, and whatever is done to it meanwhile, and whatever the transport makes of what
it is handed, at any time: either the re-INVITE still rings, or the decision that there is when its
task looks settles it. The task goes without a decision only when the ringing time is over, and
looks at once if there is one. `Settled` says what the answer comes to then. What happens to the
task changes the dialog only at the moment at which it hears that the user accepted. And an ACK is
awaited for the transaction time, and arrives for a task only within the time for which it is. -/
theorem answered_by_decision (c : Clocked) (task : TaskId) (request : Sip.Request)
    (reply : Description) (context : Context) {rest : List Moment}
    (hrest : ∀ moment ∈ rest, ¬ moment.Begins task) :
    let run := .happened (.received task request reply context) :: rest
    let heard := c.session.heard task (c.acts run)
    let log := c.session.log task (c.acts run)
    let due := c.due c.session.settings.ringingTime
    ((heard = [] ∧ log = [] ∧ ((c.after run).now : Int) ≤ due ∧
        ((c.after run).session.answer ≠ .notAnswered ∨ ((c.after run).now : Int) = due →
          (c.after run).hears task (.happened (.looked task)) =
            [.decision (c.after run).session.answer])) ∨
      ∃ before moment later, run = before ++ moment :: later ∧
        c.session.heard task (c.acts before) = [] ∧
        (c.after before).hears task moment = [.decision (c.after before).session.answer] ∧
        ((c.after before).now : Int) ≤ due ∧
        ((c.after before).session.answer = .notAnswered → ((c.after before).now : Int) = due) ∧
        Settled request context (c.after before).session.answer (c.after before).session.dialog
          heard (tally log)) ∧
    (∀ before event later, run = before ++ .happened event :: later → event.task = task →
      ((c.after before).step (.happened event)).1.session.dialog =
          (c.after before).session.dialog ∨
        (c.after before).hears task (.happened event) = [.decision .accepted]) ∧
    (∀ patience ∈ log.filterMap Effect.patience?,
      patience = c.session.settings.transactionTime) ∧
    ∀ (w : Simulation.SessionRun.World) (callId : Identifier) (cSeq : Nat) (patience : Duration),
      ∃ delay delivery,
        w.perform (.awaitAck task callId cSeq patience) =
          (w.note (.awaitedAck callId cSeq)).deliver task delay (.confirmed task delivery) ∧
        delay ≤ patience.wholeMilliseconds ∧
        (delivery = .done () ↔ w.carriage.waitAck = .ok ∨
          ∃ ms, w.carriage.waitAck = .after ms ∧ ms ≤ patience.wholeMilliseconds) := by
  intro run heard log due
  have hstage := c.stage?_ringing task request reply context
  have hlooks : ∀ moment ∈ .happened (.looked task) :: rest, ¬ moment.Begins task :=
    List.forall_mem_cons.mpr ⟨by simp [Moment.Begins, Event.begins], hrest⟩
  refine ⟨?_, ?_, c.session.patient_log task (c.acts run), fun w => w.perform_awaitAck task⟩
  · obtain ⟨hafter, hlog, hheard⟩ := c.ringing_run task request reply context rest
    rcases c.ringing_course task request reply context hlooks with
      ⟨hrests, hnow⟩ | ⟨before, later, hsplit, hrests, hnow, hover, hhears, hsettled⟩
    · refine .inl ⟨hheard.trans hrests.heard, hlog.trans hrests.log, by rwa [hafter], fun hor => ?_⟩
      have hwaits : (c.after run).session.stage? task = some (.deciding request reply context
          (.ofMilliseconds c.now + c.session.settings.ringingTime.nanoseconds)) := by
        rw [hafter, session_after]
        exact hrests.stays.trans hstage
      have hdecided := (isDecided_iff (c.after run).session _ _).mpr
        (hor.imp_right fun hdue => Int.le_of_eq hdue.symm)
      have hhears := (Service.step_of_decided hwaits hdecided).2
      rwa [← Service.hears_happened (show (Event.looked task).task = task from rfl)] at hhears
    · refine .inr ?_
      rw [← hlog, ← hheard] at hsettled
      cases before with
      | nil =>
        have hhearsHere := (c.step_received task request reply context).2.trans hhears
        exact ⟨[], _, rest, rfl, rfl, hhearsHere, hnow, hover, hsettled⟩
      | cons first before =>
        obtain ⟨rfl, rfl⟩ := List.cons.inj hsplit
        obtain ⟨hbefore, _, hsilent⟩ := c.ringing_run task request reply context before
        rw [← hbefore] at hnow hover hhears hsettled
        exact ⟨_ :: before, _, later, rfl, hsilent.trans hrests.heard, hhears, hnow, hover,
          hsettled⟩
  · intro before event later hsplit hmine
    have hanswering : ∀ stage ∈ (c.ringing task request reply context).session.stage? task,
        stage.IsAnswering := by simp [hstage, Stage.IsAnswering]
    cases before with
    | nil =>
      obtain ⟨hevent, rfl⟩ := List.cons.inj hsplit
      cases hevent
      obtain ⟨hstep, hhears⟩ := c.step_received task request reply context
      have hdialog := dialog_of_answering [] hanswering hlooks rfl
      rwa [after_nil, ← hstep, ← hhears] at hdialog
    | cons first before =>
      obtain ⟨rfl, rfl⟩ := List.cons.inj hsplit
      rw [(c.ringing_run task request reply context before).1]
      exact dialog_of_answering (_ :: before) hanswering hlooks hmine

/-- An example: the user accepts while the re-INVITE rings, and the ACK of the 200 arrives. -/
def sampleAccepted : List Moment :=
  [.ticked, .accepted, .happened (.looked 0), .happened (.responded 0 (.ok ())), .ticked,
    .happened (.confirmed 0 (.done ()))]

/-- In the example, one 200 is handed over, with the headers of the re-INVITE, and the listener is
told that it was accepted. -/
theorem accepted_reinvite_settled_in_sample :
    let c : Clocked := { session := Service.sample }
    let run :=
      .happened (.received 0 Service.sampleReceived Service.sampleReply .mediaUpdate) ::
        sampleAccepted
    (∀ moment ∈ sampleAccepted, ¬ moment.Begins 0) ∧
      (tally (c.session.log 0 (c.acts run))).outcomes = [⟨.mediaUpdate, .accepted⟩] ∧
      (tally (c.session.log 0 (c.acts run))).notices = [.updated ⟨.mediaUpdate, .accepted⟩] ∧
      ∃ response, (tally (c.session.log 0 (c.acts run))).responses = [response] ∧
        response.status = 200 ∧
        response.headers.filter Dialog.isEchoed = Service.sampleReceived.headers := by
  intro c run
  have hrest : ∀ moment ∈ sampleAccepted, ¬ moment.Begins 0 := by
    simp [sampleAccepted, Moment.Begins, Event.begins]
  have hheard : c.session.heard 0 (c.acts run) =
      [.decision .accepted, .responded (.ok ()), .confirmed (.done ())] := by decide +kernel
  have houtcomes : (tally (c.session.log 0 (c.acts run))).outcomes =
      [⟨.mediaUpdate, .accepted⟩] := by decide +kernel
  have hcount : (tally (c.session.log 0 (c.acts run))).responses.length = 1 := by decide +kernel
  obtain ⟨⟨hsilent, _⟩ | ⟨before, _, _, _, _, _, _, _, hsettled⟩, _⟩ :=
    c.answered_by_decision 0 Service.sampleReceived Service.sampleReply .mediaUpdate hrest
  · cases hheard.symm.trans hsilent
  · have hdecided := hsettled.decided
    rw [hheard] at hdecided
    obtain ⟨response, hresponse⟩ := List.length_eq_one_iff.mp hcount
    have hanswers := hsettled.response response (by rw [hresponse]; exact List.mem_singleton_self _)
    injection Option.some.inj hdecided with hanswer
    rw [← hanswer] at hanswers
    obtain ⟨hstatus, _, _, hechoes⟩ := hanswers
    refine ⟨hrest, houtcomes, ?_, response, hresponse, hstatus, hechoes.echoed⟩
    rw [hsettled.told, houtcomes, ← hanswer]
    rfl

end Clocked

end Session

end ImsClient
