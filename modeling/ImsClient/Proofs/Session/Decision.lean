import ImsClient.Proofs.Session.Tasks

/-!
# The first decision wins

The decision on a re-INVITE is a cell that the user clears and fills, and at which any
number of tasks look. Here a session runs together with a clock of milliseconds, which
stands still as long as a task whose time is over has not looked. Between two times
that the cell is cleared, every task that is answered gets the decision that was taken
first; a task goes without a decision only at its deadline, and only if there is none.
-/

namespace ImsClient

/-- The clock is at one of its ticks. -/
@[simp] theorem Instant.tick_ofMilliseconds (ms : Nat) : (Instant.ofMilliseconds ms).tick = ms := by
  unfold Instant.tick Instant.ofMilliseconds
  omega

/-- A time after one of its ticks is over at that tick at the earliest. -/
theorem Instant.le_tick_add (ms : Nat) (period : Duration) :
    (ms : Int) ≤ (Instant.ofMilliseconds ms + period.nanoseconds : Instant).tick := by
  have hperiod : (0 : Int) ≤ period.nanoseconds := Int.natCast_nonneg _
  unfold Instant.tick Instant.ofMilliseconds
  omega

namespace Session

/-- Until when a task waits for the decision, if it does. -/
def Stage.deadline? : Stage → Option Instant
  | deciding _ _ _ deadline | watching deadline => some deadline
  | _ => none

/-- What may happen next: the clock ticks, the user does something, or something happens to a
task. -/
inductive Moment where
  | ticked
  | created (offer : Description)
  | prepared
  | accepted
  | rejected (status : Option Nat)
  | moved (target : State)
  | happened (event : Event)

namespace Moment

/-- What is done to the session at a point of time. -/
def act? (now : Instant) : Moment → Option Act
  | ticked => none
  | created offer => some (.created offer)
  | prepared => some .prepared
  | accepted => some .accepted
  | rejected status => some (.rejected status)
  | moved target => some (.moved target)
  | happened event => some (.happened now event)

/-- Whether a task begins. -/
def Begins (task : TaskId) (moment : Moment) : Prop :=
  ∃ event, moment = happened event ∧ event.begins = true ∧ event.task = task

/-- The decision that the user takes. -/
def decision? : Moment → Option Answer
  | accepted => some .accepted
  | rejected status => some (.rejected (status.getD 603))
  | _ => none

/-- A decision is never that there is none. -/
theorem decision?_ne (moment : Moment) : moment.decision? ≠ some .notAnswered := by
  cases moment <;> simp [decision?]

end Moment

/-- A decision that is taken stays, whatever else is decided. -/
theorem Answer.record_of_ne {answer : Answer} (hanswer : answer ≠ .notAnswered)
    (decision : Answer) : answer.record decision = answer := by
  cases answer with
  | notAnswered => exact absurd rfl hanswer
  | accepted | rejected => rfl

/-- A wait for the decision that is over. -/
structure Return where
  /-- The milliseconds since the clock started. -/
  time : Nat
  task : TaskId
  answer : Answer
deriving DecidableEq

/-- A session with the milliseconds since its clock started. -/
structure Clocked where
  session : Service
  now : Nat := 0

namespace Clocked

/-- Whether the time of a task that waits for the decision is over. -/
def isDue (c : Clocked) : Bool :=
  c.session.tasks.any fun entry =>
    entry.2.deadline?.any fun deadline => deadline.tick ≤ (c.now : Int)

/-- What comes of a moment. The clock does not tick before every task whose time is over has
looked. -/
def step (c : Clocked) (moment : Moment) : Clocked × List Effect :=
  match moment.act? (.ofMilliseconds c.now) with
  | some act => ({ c with session := (c.session.act act).1 }, (c.session.act act).2)
  | none => ({ c with now := if c.isDue then c.now else c.now + 1 }, [])

/-- What a moment makes of a session and its clock. -/
def next (c : Clocked) (moment : Moment) : Clocked := (c.step moment).1

/-- How it stands after a run. -/
def after (c : Clocked) (history : List Moment) : Clocked := Run.after next c history

/-- The waits that are over at a moment. -/
def returned (c : Clocked) (moment : Moment) : List Return :=
  ((c.step moment).2.filterMap Effect.returned?).map fun entry => ⟨c.now, entry.1, entry.2⟩

/-- The waits that are over in a run, in order. -/
def returns (c : Clocked) (history : List Moment) : List Return :=
  Run.along next returned c history

/-- When a wait that begins now is over at the latest. -/
def due (c : Clocked) (period : Duration) : Int :=
  (Instant.ofMilliseconds c.now + period.nanoseconds : Instant).tick

variable {c : Clocked} {task : TaskId} {deadline : Instant} {moment : Moment}

@[simp] theorem after_nil (c : Clocked) : c.after [] = c := rfl

/-- A run is a moment and the run from there. -/
theorem after_cons (c : Clocked) (moment : Moment) (rest : List Moment) :
    c.after (moment :: rest) = (c.step moment).1.after rest := rfl

/-- A run that goes on leads where its rest leads from where it stood. -/
theorem after_append (c : Clocked) (first rest : List Moment) :
    c.after (first ++ rest) = (c.after first).after rest := Run.after_append c first rest

/-- A wait that is over in a run is over at some moment of it. -/
theorem mem_returns {r : Return} {history : List Moment} (hr : r ∈ c.returns history) :
    ∃ before moment rest, history = before ++ moment :: rest ∧
      r ∈ (c.after before).returned moment := (Run.mem_along c history).mp hr

/-! ### The decision -/

/-- A wait that is over gives the decision that there is, at the time that it is, and something
happened to its task. -/
theorem of_mem_returned {r : Return} (hr : r ∈ c.returned moment) :
    r.answer = c.session.answer ∧ r.time = c.now ∧
      ∃ event, moment = .happened event ∧ event.task = r.task := by
  obtain ⟨entry, hentry, rfl⟩ := List.mem_map.mp hr
  cases moment with
  | ticked | prepared | accepted | rejected => cases hentry
  | created offer => cases ((c.session.createReinvite_concerns none offer).returned entry hentry).1
  | moved target => cases ((c.session.moved_concerns none target).returned entry hentry).1
  | happened event =>
    obtain ⟨htask, hanswer⟩ := (c.session.step_concerns _ event).returned entry hentry
    exact ⟨hanswer, rfl, event, rfl, (Option.some.inj htask).symm⟩

/-- What becomes of the decision unless the user clears it: one is taken if there is none. -/
theorem answer_step (c : Clocked) (hprepared : moment ≠ .prepared) :
    (c.step moment).1.session.answer =
      (moment.decision?.map c.session.answer.record).getD c.session.answer := by
  cases moment with
  | prepared => exact absurd rfl hprepared
  | ticked | accepted | rejected => rfl
  | created offer => exact (c.session.createReinvite_concerns none offer).answer
  | moved target => exact (c.session.moved_concerns none target).answer
  | happened event => exact (c.session.step_concerns _ event).answer

/-- Until the user clears it, a decision stays. -/
theorem answer_after_of_ne (hanswer : c.session.answer ≠ .notAnswered) {history : List Moment}
    (hnone : .prepared ∉ history) : (c.after history).session.answer = c.session.answer := by
  induction history generalizing c with
  | nil => rfl
  | cons moment history ih =>
    rw [List.mem_cons, not_or] at hnone
    have hstep : (c.step moment).1.session.answer = c.session.answer := by
      rw [c.answer_step (Ne.symm hnone.1)]
      cases moment.decision? with
      | none => rfl
      | some decision => exact Answer.record_of_ne hanswer decision
    exact (ih (hstep ▸ hanswer) hnone.2).trans hstep

/-- Until the user clears it again, the decision is the first one that is taken from a time on at
which there is none. -/
theorem answer_after_of_eq (hanswer : c.session.answer = .notAnswered) {history : List Moment}
    (hnone : .prepared ∉ history) :
    (c.after history).session.answer =
      (history.findSome? Moment.decision?).getD .notAnswered := by
  induction history generalizing c with
  | nil => exact hanswer
  | cons moment history ih =>
    rw [List.mem_cons, not_or] at hnone
    have hstep := c.answer_step (Ne.symm hnone.1)
    cases hdecision : moment.decision? with
    | none =>
      rw [hdecision] at hstep
      rw [List.findSome?_cons, hdecision]
      exact ih (hstep.trans hanswer) hnone.2
    | some decision =>
      have htaken : (c.step moment).1.session.answer = decision := by
        rw [hstep, hdecision, hanswer]
        rfl
      have hne : decision ≠ .notAnswered := fun h => moment.decision?_ne (h ▸ hdecision)
      rw [List.findSome?_cons, hdecision]
      exact (answer_after_of_ne (htaken ▸ hne) hnone.2).trans htaken

/-- Until the user clears the decision, a wait that is over with a decision gives the one that
there is in the end. -/
theorem eq_answer_after_of_mem_returns {r : Return} {history : List Moment}
    (hr : r ∈ c.returns history) (hnone : .prepared ∉ history)
    (hanswer : r.answer ≠ .notAnswered) : r.answer = (c.after history).session.answer := by
  obtain ⟨before, moment, rest, rfl, hmoment⟩ := mem_returns hr
  obtain ⟨hsame, _, event, rfl, _⟩ := of_mem_returned hmoment
  rw [List.mem_append, not_or] at hnone
  rw [c.after_append, answer_after_of_ne (hsame ▸ hanswer) hnone.2, hsame]

/-! ### A wait -/

/-- A task waits for the decision, and its time is not passed. -/
structure Waits (c : Clocked) (task : TaskId) (deadline : Instant) : Prop where
  stage : c.session.stage? task = some (.watching deadline)
  inTime : (c.now : Int) ≤ deadline.tick

/-- A wait is over: the task gets the decision that there is, and if there is none, it is the
deadline. -/
structure Ends (c : Clocked) (moment : Moment) (task : TaskId) (deadline : Instant) : Prop where
  gone : (c.step moment).1.session.stage? task = none
  returned : c.returned moment = [⟨c.now, task, c.session.answer⟩]
  atDeadline : c.session.answer = .notAnswered → (c.now : Int) = deadline.tick

/-- While the time of a task is over, the clock stands still. -/
theorem inTime_ticked {stage : Stage} (hstage : c.session.stage? task = some stage)
    (hdeadline : stage.deadline? = some deadline) (hinTime : (c.now : Int) ≤ deadline.tick) :
    ((c.step .ticked).1.now : Int) ≤ deadline.tick := by
  simp only [step, Moment.act?]
  split
  · exact hinTime
  · next hdue =>
    have hearly : ¬ deadline.tick ≤ (c.now : Int) := by
      intro hover
      refine hdue (List.any_eq_true.mpr ⟨_, Service.mem_tasks_of_stage? hstage, ?_⟩)
      simpa [hdeadline] using hover
    push_cast
    omega

/-- So a task that waits goes on waiting when the clock ticks. -/
theorem Waits.ticked (h : c.Waits task deadline) : (c.step .ticked).1.Waits task deadline :=
  ⟨h.stage, inTime_ticked h.stage rfl h.inTime⟩

/-- A task stays where it is if nothing happens to it, and if it waits it does not return. -/
theorem stage?_step (hother : ∀ event, moment = .happened event → event.task ≠ task) :
    (c.step moment).1.session.stage? task = c.session.stage? task ∧
      ∀ r ∈ c.returned moment, r.task ≠ task := by
  refine ⟨?_, fun r hr hsame => ?_⟩
  · cases moment with
    | ticked | prepared | accepted | rejected => rfl
    | created offer => exact (c.session.createReinvite_concerns none offer).others task (by simp)
    | moved target => exact (c.session.moved_concerns none target).others task (by simp)
    | happened event =>
      refine (c.session.step_concerns _ event).others task fun h => ?_
      exact hother event rfl (Option.some.inj h).symm
  · obtain ⟨_, _, event, hmoment, htask⟩ := of_mem_returned hr
    exact hother event hmoment (htask.trans hsame)

/-- A task that is not in progress stays so and returns nothing, unless it begins again. -/
theorem gone_step (hgone : c.session.stage? task = none) (hbegins : ¬ moment.Begins task) :
    (c.step moment).1.session.stage? task = none ∧ ∀ r ∈ c.returned moment, r.task ≠ task := by
  by_cases hhappens : ∃ event, moment = .happened event ∧ event.task = task
  · obtain ⟨event, rfl, rfl⟩ := hhappens
    have hfalse : event.begins = false :=
      Bool.eq_false_iff.mpr fun htrue => hbegins ⟨event, rfl, htrue, rfl⟩
    have hstep := Service.step_of_no_stage (.ofMilliseconds c.now) hfalse hgone
    simp only [returned, step, Moment.act?, Service.act, hstep]
    exact ⟨hgone, by simp⟩
  · obtain ⟨hstage, hreturned⟩ := stage?_step (c := c) fun event hmoment htask =>
      hhappens ⟨event, hmoment, htask⟩
    exact ⟨hstage.trans hgone, hreturned⟩

/-- A task that waits goes on waiting at a moment, or its wait is over; unless it begins again. -/
theorem Waits.step (h : c.Waits task deadline) (hbegins : ¬ moment.Begins task) :
    ((c.step moment).1.Waits task deadline ∧ ∀ r ∈ c.returned moment, r.task ≠ task) ∨
      c.Ends moment task deadline := by
  by_cases hhappens : ∃ event, moment = .happened event ∧ event.task = task
  · obtain ⟨event, rfl, rfl⟩ := hhappens
    have hfalse : event.begins = false :=
      Bool.eq_false_iff.mpr fun htrue => hbegins ⟨event, rfl, htrue, rfl⟩
    rcases Service.step_of_watching (.ofMilliseconds c.now) hfalse h.stage with
      hstep | ⟨hdecided, hstep⟩
    · refine .inl ?_
      simp only [returned, Clocked.step, Moment.act?, Service.act, hstep]
      exact ⟨h, by simp⟩
    · refine .inr ⟨?_, ?_, fun hnone => ?_⟩
      · simp [Clocked.step, Moment.act?, Service.act, hstep, Service.finish]
      · simp [returned, Clocked.step, Moment.act?, Service.act, hstep, Service.finish,
          Effect.returned?]
      · have hover : deadline.tick ≤ (c.now : Int) := by
          simpa [Service.isDecided, hnone] using hdecided
        exact Int.le_antisymm h.inTime hover
  · have hother : ∀ event, moment = .happened event → event.task ≠ task :=
      fun event hmoment htask => hhappens ⟨event, hmoment, htask⟩
    obtain ⟨hstage, hreturned⟩ := stage?_step (c := c) hother
    refine .inl ⟨?_, hreturned⟩
    cases moment with
    | ticked => exact h.ticked
    | created | prepared | accepted | rejected | moved | happened =>
      exact ⟨hstage.trans h.stage, h.inTime⟩

/-- A task that is not in progress returns nothing in a run in which it does not begin again. -/
theorem task_ne_of_gone {history : List Moment} (hgone : c.session.stage? task = none)
    (hbegins : ∀ moment ∈ history, ¬ moment.Begins task) :
    ∀ r ∈ c.returns history, r.task ≠ task := by
  induction history generalizing c with
  | nil => simp [returns]
  | cons moment history ih =>
    obtain ⟨hbegins, hrest⟩ := List.forall_mem_cons.mp hbegins
    obtain ⟨hnext, hreturned⟩ := gone_step hgone hbegins
    exact List.forall_mem_append.mpr ⟨hreturned, ih hnext hrest⟩

/-- A task that waits returns without a decision at its deadline only; and until it returns, its
deadline is not passed. -/
theorem Waits.run {history : List Moment} (h : c.Waits task deadline)
    (hbegins : ∀ moment ∈ history, ¬ moment.Begins task) :
    (∀ r ∈ c.returns history, r.task = task → r.answer = .notAnswered →
      (r.time : Int) = deadline.tick) ∧
    ((∀ r ∈ c.returns history, r.task ≠ task) → (c.after history).Waits task deadline) := by
  induction history generalizing c with
  | nil => exact ⟨by simp [returns], fun _ => h⟩
  | cons moment history ih =>
    obtain ⟨hbegins, hrest⟩ := List.forall_mem_cons.mp hbegins
    rcases h.step hbegins with ⟨hnext, hreturned⟩ | hends
    · obtain ⟨hlate, hwaits⟩ := ih hnext hrest
      refine ⟨List.forall_mem_append.mpr ⟨fun r hr hsame => absurd hsame (hreturned r hr), hlate⟩,
        fun hnone => hwaits (List.forall_mem_append.mp hnone).2⟩
    · refine ⟨List.forall_mem_append.mpr ⟨fun r hr _ hanswer => ?_, fun r hr hsame => ?_⟩,
        fun hnone => ?_⟩
      · rw [hends.returned, List.mem_singleton] at hr
        subst hr
        exact hends.atDeadline hanswer
      · exact absurd hsame (task_ne_of_gone hends.gone hrest r hr)
      · have hreturn := (List.forall_mem_append.mp hnone).1 ⟨c.now, task, c.session.answer⟩
        rw [hends.returned] at hreturn
        exact absurd rfl (hreturn (List.mem_singleton_self _))

/-- A task that waits returns when it looks, if there is a decision or it is the deadline. -/
theorem Waits.look (h : c.Waits task deadline)
    (hdecided : c.session.answer ≠ .notAnswered ∨ (c.now : Int) = deadline.tick) :
    c.returned (.happened (.looked task)) = [⟨c.now, task, c.session.answer⟩] := by
  have hyes : c.session.isDecided (.ofMilliseconds c.now) deadline = true := by
    rcases hdecided with hanswer | hover
    · simp [Service.isDecided, hanswer]
    · simp [Service.isDecided, hover]
  simp [returned, Clocked.step, Moment.act?, Service.act, Service.step, Service.look, h.stage,
    hyes, Service.finish, Effect.returned?]

/-- A wait that begins is over at once if there is a decision or no time to wait; otherwise the task
waits. -/
theorem begins_cases (c : Clocked) (task : TaskId) (period : Duration) :
    ((c.session.answer ≠ .notAnswered ∨ (c.now : Int) = c.due period) ∧
      (c.step (.happened (.awaited task period))).1.session.stage? task = none ∧
      c.returned (.happened (.awaited task period)) = [⟨c.now, task, c.session.answer⟩]) ∨
    (c.session.answer = .notAnswered ∧ c.returned (.happened (.awaited task period)) = [] ∧
      (c.step (.happened (.awaited task period))).1.Waits task
        (.ofMilliseconds c.now + period.nanoseconds)) := by
  have hle := Instant.le_tick_add c.now period
  have hstage : (c.session.withTask task
      (.watching (.ofMilliseconds c.now + period.nanoseconds))).stage? task =
        some (.watching (.ofMilliseconds c.now + period.nanoseconds)) := by simp
  simp only [returned, Clocked.step, Moment.act?, Service.act, Service.step, Service.look, hstage]
  split
  · next hdecided =>
    refine .inl ⟨?_, by simp [Service.finish], ?_⟩
    · have hor : c.session.answer ≠ .notAnswered ∨ c.due period ≤ (c.now : Int) := by
        simpa [Service.isDecided, Service.withTask, due] using hdecided
      exact hor.imp_right (Int.le_antisymm hle)
    · simp [Service.finish, Effect.returned?, Service.withTask]
  · next hdecided =>
    by_cases hanswer : c.session.answer = .notAnswered
    · exact .inr ⟨hanswer, rfl, hstage, hle⟩
    · exact absurd (by simp [Service.isDecided, Service.withTask, hanswer]) hdecided

/-- **The first decision wins, for everybody.** A session starts without a decision. After every run
in which the user has not cleared it since the start, or since the last time, the decision is the
first one that was taken since. A wait that is over gives the decision that there is then; so until
the user clears it, all waits that are over with a decision agree. At any time, a wait that begins
with a decision is over at once. Until its task begins again, it goes without a decision only at its
deadline, a period after it began. As long as it waits, the deadline is not passed, and its task is
answered when it looks if there is a decision or it is the deadline. -/
theorem first_decision_wins {c : Clocked} (hnew : c.session.answer = .notAnswered) :
    (∀ before since, (before = [] ∨ ∃ earlier, before = earlier ++ [.prepared]) →
      .prepared ∉ since → (c.after (before ++ since)).session.answer =
        (since.findSome? Moment.decision?).getD .notAnswered) ∧
    (∀ before moment, ∀ r ∈ (c.after before).returned moment,
      r.answer = (c.after before).session.answer) ∧
    (∀ before since, .prepared ∉ since → ∀ first ∈ (c.after before).returns since,
      ∀ second ∈ (c.after before).returns since, first.answer ≠ .notAnswered →
        second.answer ≠ .notAnswered → first.answer = second.answer) ∧
    ∀ (d : Clocked) (task : TaskId) (period : Duration),
      (d.session.answer ≠ .notAnswered → d.returned (.happened (.awaited task period)) =
        [⟨d.now, task, d.session.answer⟩]) ∧
      ∀ rest, (∀ moment ∈ rest, ¬ moment.Begins task) →
        (∀ r ∈ d.returns (.happened (.awaited task period) :: rest), r.task = task →
          r.answer = .notAnswered → (r.time : Int) = d.due period) ∧
        ((∀ r ∈ d.returns (.happened (.awaited task period) :: rest), r.task ≠ task) →
          let e := d.after (.happened (.awaited task period) :: rest)
          (e.now : Int) ≤ d.due period ∧
            (e.session.answer ≠ .notAnswered ∨ (e.now : Int) = d.due period →
              e.returned (.happened (.looked task)) = [⟨e.now, task, e.session.answer⟩])) := by
  refine ⟨fun before since hbefore hnone => ?_, fun before moment r hr => (of_mem_returned hr).1,
    fun before since hnone first hfirst second hsecond hanswer hanswer' => ?_,
    fun d task period => ⟨fun hanswer => ?_, fun rest hrest => ?_⟩⟩
  · rw [after_append]
    refine answer_after_of_eq ?_ hnone
    rcases hbefore with rfl | ⟨earlier, rfl⟩
    · exact hnew
    · rw [after_append]
      rfl
  · rw [eq_answer_after_of_mem_returns hfirst hnone hanswer,
      eq_answer_after_of_mem_returns hsecond hnone hanswer']
  · rcases d.begins_cases task period with ⟨_, _, hreturned⟩ | ⟨hnone, _⟩
    · exact hreturned
    · exact absurd hnone hanswer
  · rcases d.begins_cases task period with ⟨hdecided, hgone, hreturned⟩ | ⟨_, hreturned, hwaits⟩
    · have hlater := task_ne_of_gone hgone hrest
      refine ⟨List.forall_mem_append.mpr ⟨fun r hr _ hanswer => ?_, fun r hr hsame => ?_⟩,
        fun hnone => ?_⟩
      · rw [hreturned, List.mem_singleton] at hr
        subst hr
        exact hdecided.resolve_left fun h => h hanswer
      · exact absurd hsame (hlater r hr)
      · have hreturn := (List.forall_mem_append.mp hnone).1 ⟨d.now, task, d.session.answer⟩
        rw [hreturned] at hreturn
        exact absurd rfl (hreturn (List.mem_singleton_self _))
    · obtain ⟨hlate, hstill⟩ := hwaits.run hrest
      refine ⟨List.forall_mem_append.mpr ⟨fun r hr => ?_, hlate⟩, fun hnone => ?_⟩
      · rw [hreturned] at hr
        cases hr
      · have hend := hstill (List.forall_mem_append.mp hnone).2
        exact ⟨hend.inTime, hend.look⟩

/-- A session without a decision, for the example. -/
def sampleUndecided : Clocked where
  session :=
    { settings := {}, bound := ⟨.v4 [10, 0, 0, 2], 5060⟩, id := .given "1",
      kind := ⟨.oneToOneChat, "b"⟩ }

/-- An example: two tasks wait, the user rejects and then accepts, and the tasks look. -/
def sampleRejected : List Moment :=
  [.happened (.awaited 0 (.ofMilliseconds 3)), .happened (.awaited 1 (.ofMilliseconds 50)),
    .rejected none, .accepted, .happened (.looked 1), .ticked, .happened (.looked 0)]

/-- An example: nobody decides while a task waits for two milliseconds. -/
def sampleSilent : List Moment := [.ticked, .ticked, .ticked, .happened (.looked 2)]

/-- In the example, both tasks are answered with the rejection, at different times. When the user
has cleared it, a third one goes without a decision after its two milliseconds. -/
theorem rejection_wins_in_sample :
    sampleUndecided.session.answer = .notAnswered ∧
    sampleUndecided.returns sampleRejected = [⟨0, 1, .rejected 603⟩, ⟨1, 0, .rejected 603⟩] ∧
    (sampleUndecided.after ([] ++ sampleRejected)).session.answer = .rejected 603 ∧
    (⟨3, 2, .notAnswered⟩ : Return) ∈
      (sampleUndecided.after (sampleRejected ++ [.prepared])).returns
        (.happened (.awaited 2 (.ofMilliseconds 2)) :: sampleSilent) ∧
    ((3 : Nat) : Int) =
      (sampleUndecided.after (sampleRejected ++ [.prepared])).due (.ofMilliseconds 2) := by
  have hwins := first_decision_wins (c := sampleUndecided) rfl
  have hlate : (⟨3, 2, .notAnswered⟩ : Return) ∈
      (sampleUndecided.after (sampleRejected ++ [.prepared])).returns
        (.happened (.awaited 2 (.ofMilliseconds 2)) :: sampleSilent) := by decide +kernel
  refine ⟨rfl, by decide +kernel, ?_, hlate, ?_⟩
  · exact hwins.1 [] sampleRejected (.inl rfl) (by simp [sampleRejected])
  · refine ((hwins.2.2.2 _ 2 (.ofMilliseconds 2)).2 sampleSilent ?_).1 _ hlate rfl rfl
    simp [sampleSilent, Moment.Begins, Event.begins]

end Clocked

end Session

end ImsClient
