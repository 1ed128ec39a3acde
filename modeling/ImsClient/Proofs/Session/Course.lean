import ImsClient.Proofs.Session.Tasks

/-!
# The course of a task

A task waits at a stage until it hears what it waits for: the decision of the user, the
reply to its re-INVITE, or what came of something that it handed to the transport. It
does something only when it hears something. So whatever else is done to the session, a
run is at rest for the task up to an event that its stage waits for, and then the task
is at the next stage.
-/

namespace ImsClient.Session

instance exceptDecidableEq {ε α : Type} [DecidableEq ε] [DecidableEq α] :
    DecidableEq (Except ε α)
  | .error e, .error e' => decidable_of_iff (e = e') (by simp)
  | .ok a, .ok a' => decidable_of_iff (a = a') (by simp)
  | .error _, .ok _ | .ok _, .error _ => isFalse nofun

/-- What the listener is told by a task. -/
inductive Notice where
  | failed (error : Error)
  | updated (outcome : Outcome)
deriving DecidableEq, Repr

/-- What a task hears. -/
inductive Hearing where
  /-- A wait for the decision is over, with the decision that there is. -/
  | decision (answer : Answer)
  | reply (delivery : Delivery Sip.Response)
  | acked
  | responded (result : Except Error Unit)
  | confirmed (delivery : Delivery Unit)
deriving DecidableEq, Repr

/-- The reply to a re-INVITE that is heard. -/
def Hearing.reply? : Hearing → Option (Delivery Sip.Response)
  | reply delivery => some delivery
  | _ => none

namespace Effect

/-- What an effect tells the listener of a renegotiation. -/
def told? : Effect → Option Notice
  | tellError error => some (.failed error)
  | tellOutcome outcome => some (.updated outcome)
  | _ => none

/-- The response that an effect hands to the transport. -/
def responded? : Effect → Option Sip.Response
  | respond _ response => some response
  | _ => none

/-- The Call-ID and the number of the ACK that an effect begins to await. -/
def awaited? : Effect → Option (Identifier × Nat)
  | awaitAck _ callId cSeq _ => some (callId, cSeq)
  | _ => none

/-- The outcome that an effect returns to whoever started the task. -/
def outcome? : Effect → Option Outcome
  | finish _ (.outcome outcome) => some outcome
  | _ => none

/-- What an effect returns to whoever accepted a re-INVITE. -/
def accepted? : Effect → Option (Except Error Unit)
  | finish _ (.response result) => some result
  | _ => none

end Effect

/-- What the listener is told of an outcome: of a failure before anything else. -/
def Outcome.notices (outcome : Outcome) : List Notice :=
  match outcome.ending with
  | .failed error => [.failed error, .updated outcome]
  | _ => [.updated outcome]

/-- The outcome that the listener is told of. -/
def Notice.outcome? : Notice → Option Outcome
  | updated outcome => some outcome
  | failed _ => none

/-- The listener is told of an outcome once. -/
@[simp] theorem outcome_notices (outcome : Outcome) :
    outcome.notices.filterMap Notice.outcome? = [outcome] := by
  unfold Outcome.notices
  split <;> rfl

/-- What a task does at its end: the listener is told of the outcome, and it is returned. -/
def conclusion (task : TaskId) (outcome : Outcome) : List Effect :=
  match outcome.ending with
  | .failed error =>
    [.tellError error, .tellOutcome outcome, .finish task (.outcome outcome)]
  | _ => [.tellOutcome outcome, .finish task (.outcome outcome)]

/-- At its end a task tells the listener of the outcome. -/
@[simp] theorem told_conclusion (task : TaskId) (outcome : Outcome) :
    (conclusion task outcome).filterMap Effect.told? = outcome.notices := by
  unfold conclusion Outcome.notices
  split <;> rfl

/-- It returns the outcome. -/
@[simp] theorem outcome_conclusion (task : TaskId) (outcome : Outcome) :
    (conclusion task outcome).filterMap Effect.outcome? = [outcome] := by
  unfold conclusion
  split <;> rfl

/-- It sends no re-INVITE. -/
@[simp] theorem sent_conclusion (task : TaskId) (outcome : Outcome) :
    (conclusion task outcome).filterMap Effect.sent? = [] := by
  unfold conclusion
  split <;> rfl

/-- It acknowledges none. -/
@[simp] theorem acknowledged_conclusion (task : TaskId) (outcome : Outcome) :
    (conclusion task outcome).filterMap Effect.acknowledged? = [] := by
  unfold conclusion
  split <;> rfl

/-- It hands over no response. -/
@[simp] theorem responded_conclusion (task : TaskId) (outcome : Outcome) :
    (conclusion task outcome).filterMap Effect.responded? = [] := by
  unfold conclusion
  split <;> rfl

/-- It awaits no ACK. -/
@[simp] theorem awaited_conclusion (task : TaskId) (outcome : Outcome) :
    (conclusion task outcome).filterMap Effect.awaited? = [] := by
  unfold conclusion
  split <;> rfl

/-- A log returns one outcome at most, and the listener is told of it, and of a failure before. -/
structure Reports (log : List Effect) : Prop where
  once : (log.filterMap Effect.outcome?).length ≤ 1
  told : log.filterMap Effect.told? = (log.filterMap Effect.outcome?).flatMap Outcome.notices

/-- Nothing is told of nothing. -/
theorem Reports.nil : Reports [] := ⟨Nat.zero_le 1, rfl⟩

/-- The end of a task reports its outcome. -/
theorem reports_conclusion (task : TaskId) (outcome : Outcome) :
    Reports (conclusion task outcome) := ⟨by simp, by simp⟩

/-- Effects that neither tell nor return anything may go before. -/
theorem Reports.append {effects log : List Effect}
    (houtcome : effects.filterMap Effect.outcome? = [])
    (htold : effects.filterMap Effect.told? = []) (h : Reports log) : Reports (effects ++ log) where
  once := by rw [List.filterMap_append, houtcome, List.nil_append]; exact h.once
  told := by
    rw [List.filterMap_append, List.filterMap_append, houtcome, htold, List.nil_append,
      List.nil_append]
    exact h.told

namespace Act

/-- The task that an act happens to. -/
def task? : Act → Option TaskId
  | happened _ event => some event.task
  | _ => none

/-- Whether a task begins. -/
def Begins (task : TaskId) (act : Act) : Prop :=
  ∃ now event, act = happened now event ∧ event.begins = true ∧ event.task = task

/-- What happens to a task is an event. -/
theorem eq_happened {act : Act} {task : TaskId} (htask : act.task? = some task) :
    ∃ now event, act = happened now event ∧ event.task = task := by
  cases act with
  | happened now event => exact ⟨now, event, rfl, Option.some.inj htask⟩
  | created | prepared | accepted | rejected | moved => cases htask

end Act

namespace Service

/-! ### What a task does and hears -/

/-- What the task of an event hears by it. -/
def hearing (s : Service) (now : Instant) : Event → List Hearing
  | .received .. => decided (now + s.settings.ringingTime.nanoseconds)
  | .awaited _ period => decided (now + period.nanoseconds)
  | .looked task =>
    match s.stage? task with
    | some (.deciding _ _ _ deadline) | some (.watching deadline) => decided deadline
    | _ => []
  | .replied task delivery =>
    match s.stage? task with
    | some (.offering ..) => [.reply delivery]
    | _ => []
  | .acked task =>
    match s.stage? task with
    | some (.acking _) => [.acked]
    | _ => []
  | .responded task result =>
    match s.stage? task with
    | some (.responding _) => [.responded result]
    | _ => []
  | .confirmed task delivery =>
    match s.stage? task with
    | some (.confirming _) => [.confirmed delivery]
    | _ => []
  | .offered .. | .accepted .. => []
where
  decided (deadline : Instant) : List Hearing :=
    if s.isDecided now deadline then [.decision s.answer] else []

/-- What a task hears by an act. -/
def hears (s : Service) (task : TaskId) (act : Act) : List Hearing :=
  match act with
  | .happened now event => if event.task = task then s.hearing now event else []
  | _ => []

/-- What a task does by an act. -/
def does (s : Service) (task : TaskId) (act : Act) : List Effect :=
  if act.task? = some task then (s.act act).2 else []

/-- What a task hears along a run, in order. -/
def heard (s : Service) (task : TaskId) : List Act → List Hearing :=
  s.along fun s => s.hears task

/-- What a task does along a run, in order. -/
def log (s : Service) (task : TaskId) : List Act → List Effect :=
  s.along fun s => s.does task

variable {s : Service} {task : TaskId} {stage : Stage}

/-- What a task does along a run begins with what it does by the first act. -/
theorem log_cons (s : Service) (task : TaskId) (act : Act) (rest : List Act) :
    s.log task (act :: rest) = s.does task act ++ (s.act act).1.log task rest := rfl

/-- What it hears begins with what it hears by the first act. -/
theorem heard_cons (s : Service) (task : TaskId) (act : Act) (rest : List Act) :
    s.heard task (act :: rest) = s.hears task act ++ (s.act act).1.heard task rest := rfl

/-- What a task does in runs one after another. -/
theorem log_append (s : Service) (task : TaskId) (first rest : List Act) :
    s.log task (first ++ rest) = s.log task first ++ (s.after first).log task rest :=
  s.along_append _ first rest

/-- What it hears in them. -/
theorem heard_append (s : Service) (task : TaskId) (first rest : List Act) :
    s.heard task (first ++ rest) = s.heard task first ++ (s.after first).heard task rest :=
  s.along_append _ first rest

/-- What a task awaits, it awaits for the transaction time. -/
theorem patient_log (s : Service) (task : TaskId) (acts : List Act) :
    ∀ patience ∈ (s.log task acts).filterMap Effect.patience?,
      patience = s.settings.transactionTime := by
  induction acts generalizing s with
  | nil => simp [log]
  | cons act acts ih =>
    obtain ⟨hsettings, hpatient⟩ := s.act_patient act
    rw [log_cons, List.filterMap_append]
    refine List.forall_mem_append.mpr ⟨?_, hsettings ▸ ih (s.act act).1⟩
    unfold does
    split
    · exact hpatient
    · exact nofun

/-- An event of a task does what the step does. -/
theorem does_happened {event : Event} (htask : event.task = task) (now : Instant) :
    s.does task (.happened now event) = (s.step now event).2 := by
  simp [does, Act.task?, htask, Service.act]

/-- The task of an event hears what there is to hear. -/
theorem hears_happened {event : Event} (htask : event.task = task) (now : Instant) :
    s.hears task (.happened now event) = s.hearing now event := by
  simp [hears, htask]

/-- A re-INVITE that is received is looked at at once. -/
theorem received_eq (s : Service) (task : TaskId) (request : Sip.Request) (reply : Description)
    (context : Context) (now : Instant) :
    let waiting := s.withTask task
      (.deciding request reply context (now + s.settings.ringingTime.nanoseconds))
    s.act (.happened now (.received task request reply context)) =
        waiting.act (.happened now (.looked task)) ∧
      s.hears task (.happened now (.received task request reply context)) =
        waiting.hears task (.happened now (.looked task)) := by
  refine ⟨rfl, ?_⟩
  simp only [hears, Event.task, if_true, hearing, stage?_withTask]
  rfl

/-! ### Rest -/

/-- A run is at rest for a task: it does and hears nothing, and stays at its stage throughout. What
happens to it, if anything does, changes nothing at all. -/
structure Rests (s : Service) (task : TaskId) (acts : List Act) : Prop where
  throughout : ∀ first, first <+: acts → (s.after first).stage? task = s.stage? task
  log : s.log task acts = []
  heard : s.heard task acts = []
  alone : (∀ act ∈ acts, act.task? = some task) → s.after acts = s

/-- In the end it is at the stage that it was at. -/
theorem Rests.stays {acts : List Act} (h : s.Rests task acts) :
    (s.after acts).stage? task = s.stage? task :=
  h.throughout acts List.prefix_rfl

/-- To do nothing is to rest. -/
theorem Rests.nil (s : Service) (task : TaskId) : s.Rests task [] where
  throughout first hfirst := by rw [List.prefix_nil.mp hfirst]; rfl
  log := rfl
  heard := rfl
  alone _ := rfl

/-- An act at which a task rests. -/
theorem Rests.single {act : Act} (hstage : (s.act act).1.stage? task = s.stage? task)
    (hdoes : s.does task act = []) (hhears : s.hears task act = [])
    (hsame : act.task? = some task → (s.act act).1 = s) : s.Rests task [act] where
  throughout first hfirst := by
    cases first with
    | nil => rfl
    | cons other first =>
      obtain ⟨hsame, hnil⟩ := List.cons_prefix_cons.mp hfirst
      rw [hsame, List.prefix_nil.mp hnil]
      exact hstage
  log := by simp [Service.log, along_cons, hdoes]
  heard := by simp [Service.heard, along_cons, hhears]
  alone hmine := hsame (hmine act (List.mem_singleton_self act))

/-- One more act at the front, at which the task rests. -/
theorem Rests.cons {act : Act} {acts : List Act} (hact : s.Rests task [act])
    (hacts : (s.act act).1.Rests task acts) : s.Rests task (act :: acts) where
  throughout first hfirst := by
    cases first with
    | nil => rfl
    | cons other first =>
      obtain ⟨hsame, hfirst⟩ := List.cons_prefix_cons.mp hfirst
      rw [hsame]
      exact (hacts.throughout first hfirst).trans hact.stays
  log := by
    have hdoes : s.does task act = [] := by simpa [Service.log, along_cons] using hact.log
    rw [log_cons, hdoes, hacts.log, List.append_nil]
  heard := by
    have hhears : s.hears task act = [] := by simpa [Service.heard, along_cons] using hact.heard
    rw [heard_cons, hhears, hacts.heard, List.append_nil]
  alone hmine := by
    obtain ⟨hfirst, hrest⟩ := List.forall_mem_cons.mp hmine
    exact (hacts.alone hrest).trans (hact.alone (by simpa using hfirst))

/-- A task rests at what happens to others or to none. -/
theorem rests_of_other {act : Act} (hother : act.task? ≠ some task) : s.Rests task [act] := by
  refine .single ?_ (if_neg hother) ?_ fun hmine => absurd hmine hother
  · cases act with
    | prepared | accepted | rejected => rfl
    | created offer => exact (s.createReinvite_concerns none offer).others task (by simp)
    | moved target => exact (s.moved_concerns none target).others task (by simp)
    | happened now event => exact (s.step_concerns now event).others task (Ne.symm hother)
  · cases act with
    | happened now event => exact if_neg fun h => hother (congrArg some h)
    | created | prepared | accepted | rejected | moved => rfl

/-- A task rests at an event that does nothing and is not heard. -/
theorem rests_of_step (now : Instant) (event : Event) (hstep : s.step now event = (s, []))
    (hhearing : s.hearing now event = []) : s.Rests event.task [.happened now event] := by
  have hact : s.act (.happened now event) = (s, []) := hstep
  refine .single (by rw [hact]) ?_ ?_ fun _ => by rw [hact]
  · rw [does_happened rfl, hstep]
  · rw [hears_happened rfl, hhearing]

/-- A task that is not in progress rests, unless it begins again. -/
theorem rests_of_no_stage {acts : List Act} (hstage : s.stage? task = none)
    (hacts : ∀ act ∈ acts, ¬ act.Begins task) : s.Rests task acts := by
  induction acts generalizing s with
  | nil => exact .nil s task
  | cons act acts ih =>
    obtain ⟨hbegins, hrest⟩ := List.forall_mem_cons.mp hacts
    have hact : s.Rests task [act] := by
      by_cases hmine : act.task? = some task
      · obtain ⟨now, event, rfl, rfl⟩ := Act.eq_happened hmine
        have hfalse : event.begins = false :=
          Bool.eq_false_iff.mpr fun htrue => hbegins ⟨now, event, rfl, htrue, rfl⟩
        refine rests_of_step now _ (step_of_no_stage now hfalse hstage) ?_
        cases event with
        | offered | received | accepted | awaited => cases hfalse
        | looked | replied | acked | responded | confirmed =>
          simp only [Event.task] at hstage
          simp only [hearing, hstage]
      · exact rests_of_other hmine
    exact hact.cons (ih (hact.stays.trans hstage) hrest)

/-- A task that is taken out rests. -/
theorem rests_withoutTask (s : Service) (task : TaskId) {acts : List Act}
    (hacts : ∀ act ∈ acts, ¬ act.Begins task) : (s.withoutTask task).Rests task acts :=
  rests_of_no_stage (by simp) hacts

/-! ### What a stage waits for -/

/-- A task that is set to a stage is at it. -/
theorem stage?_withTask_self (s : Service) (task : TaskId) (stage : Stage) :
    (s.withTask task stage).stage? task = some stage := by simp

/-- Whether an event is one that a task at a stage waits for. -/
def Meets (s : Service) (now : Instant) : Stage → Event → Prop
  | .offering .., .replied .. => True
  | .acking _, .acked _ => True
  | .deciding _ _ _ deadline, .looked _ => s.isDecided now deadline = true
  | .watching deadline, .looked _ => s.isDecided now deadline = true
  | .responding _, .responded .. => True
  | .confirming _, .confirmed .. => True
  | _, _ => False

/-- A task rests at an event that its stage does not wait for. -/
theorem rests_or_meets {event : Event} (hstage : s.stage? event.task = some stage)
    (hbegins : event.begins = false) (now : Instant) :
    s.Rests event.task [.happened now event] ∨ s.Meets now stage event := by
  cases event with
  | offered | received | accepted | awaited => cases hbegins
  | looked task =>
    simp only [Event.task] at hstage
    have hrests (hidle : s.look now task = (s, [])) (hsilent : s.hearing now (.looked task) = []) :
        s.Rests task [.happened now (.looked task)] :=
      rests_of_step now (.looked task) hidle hsilent
    cases stage with
    | deciding request reply context deadline =>
      by_cases hdecided : s.isDecided now deadline = true
      · exact .inr hdecided
      · exact .inl (hrests (by simp [look, hstage, hdecided])
          (by simp [hearing, hearing.decided, hstage, hdecided]))
    | watching deadline =>
      by_cases hdecided : s.isDecided now deadline = true
      · exact .inr hdecided
      · exact .inl (hrests (by simp [look, hstage, hdecided])
          (by simp [hearing, hearing.decided, hstage, hdecided]))
    | offering | acking | responding | confirming =>
      exact .inl (hrests (by simp [look, hstage]) (by simp [hearing, hstage]))
  | replied task delivery =>
    simp only [Event.task] at hstage
    cases stage with
    | offering => exact .inr trivial
    | acking | deciding | watching | responding | confirming =>
      exact .inl (rests_of_step now _ (by simp [step, hstage]) (by simp [hearing, hstage]))
  | acked task =>
    simp only [Event.task] at hstage
    cases stage with
    | acking => exact .inr trivial
    | offering | deciding | watching | responding | confirming =>
      exact .inl (rests_of_step now _ (by simp [step, hstage]) (by simp [hearing, hstage]))
  | responded task result =>
    simp only [Event.task] at hstage
    cases stage with
    | responding => exact .inr trivial
    | offering | acking | deciding | watching | confirming =>
      exact .inl (rests_of_step now _ (by simp [step, hstage]) (by simp [hearing, hstage]))
  | confirmed task delivery =>
    simp only [Event.task] at hstage
    cases stage with
    | confirming => exact .inr trivial
    | offering | acking | deciding | watching | responding =>
      exact .inl (rests_of_step now _ (by simp [step, hstage]) (by simp [hearing, hstage]))

/-- **A task moves when it hears what it waits for.** It rests through a whole run, or up to an
event that its stage waits for; unless it begins again. -/
theorem rests_or_moves {acts : List Act} (hstage : s.stage? task = some stage)
    (hacts : ∀ act ∈ acts, ¬ act.Begins task) :
    s.Rests task acts ∨
      ∃ before now event rest, acts = before ++ .happened now event :: rest ∧
        event.task = task ∧ s.Rests task before ∧ (s.after before).Meets now stage event := by
  induction acts generalizing s with
  | nil => exact .inl (.nil s task)
  | cons act acts ih =>
    obtain ⟨hbegins, hrest⟩ := List.forall_mem_cons.mp hacts
    have hmoves : s.Rests task [act] ∨
        ∃ now event, act = .happened now event ∧ event.task = task ∧ s.Meets now stage event := by
      by_cases hmine : act.task? = some task
      · obtain ⟨now, event, rfl, rfl⟩ := Act.eq_happened hmine
        have hfalse : event.begins = false :=
          Bool.eq_false_iff.mpr fun htrue => hbegins ⟨now, event, rfl, htrue, rfl⟩
        exact (rests_or_meets hstage hfalse now).imp_right fun hmeets =>
          ⟨now, event, rfl, rfl, hmeets⟩
      · exact .inl (rests_of_other hmine)
    rcases hmoves with hact | ⟨now, event, rfl, htask, hmeets⟩
    · rcases ih (hact.stays.trans hstage) hrest with
        hrests | ⟨before, now, event, rest, rfl, htask, hrests, hmeets⟩
      · exact .inl (hact.cons hrests)
      · exact .inr ⟨act :: before, now, event, rest, rfl, htask, hact.cons hrests, hmeets⟩
    · exact .inr ⟨[], now, event, acts, rfl, htask, .nil s task, hmeets⟩

/-- What a task does and hears in a run that begins with one of its events: what it does and hears
then and afterwards. -/
theorem course_of_event (s : Service) (now : Instant) {event : Event} (htask : event.task = task)
    (rest : List Act) :
    s.log task (.happened now event :: rest) =
        (s.step now event).2 ++ (s.step now event).1.log task rest ∧
      s.heard task (.happened now event :: rest) =
        s.hearing now event ++ (s.step now event).1.heard task rest ∧
      s.after (.happened now event :: rest) = (s.step now event).1.after rest := by
  refine ⟨?_, ?_, rfl⟩
  · rw [log_cons, does_happened htask]
    rfl
  · rw [heard_cons, hears_happened htask]
    rfl

/-- The same of a run that it rests in up to an event. -/
theorem course_of_move {before : List Act} (hrests : s.Rests task before) (now : Instant)
    (event : Event) (htask : event.task = task) (rest : List Act) :
    s.log task (before ++ .happened now event :: rest) =
        ((s.after before).step now event).2 ++ ((s.after before).step now event).1.log task rest ∧
      s.heard task (before ++ .happened now event :: rest) =
        (s.after before).hearing now event ++
          ((s.after before).step now event).1.heard task rest ∧
      s.after (before ++ .happened now event :: rest) =
        ((s.after before).step now event).1.after rest := by
  obtain ⟨hlog, hheard, hafter⟩ := (s.after before).course_of_event now htask rest
  refine ⟨?_, ?_, (s.after_append before _).trans hafter⟩
  · rw [log_append, hrests.log, List.nil_append, hlog]
  · rw [heard_append, hrests.heard, List.nil_append, hheard]

end Service

end ImsClient.Session
