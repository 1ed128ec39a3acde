import ImsClient.Proofs.Registration.Line

/-!
# The manager on several workers

An event does all of its work before the next event comes. On several workers the
calls run side by side, and only what a lock guards is done in one piece. The lock
of the manager guards an exchange as a whole, but the state and the flag of an
un-REGISTER that was deferred have a lock of their own: a caller who wants to
un-REGISTER looks at the state in the middle of an exchange, and also between the
two halves of its end. Each piece of work is a moment here, and the moments of
different calls come in any order. On one worker they come as the events have them.
-/

namespace ImsClient.Registration

/-- How far the call that holds the lock has come with its exchange. -/
inductive Stage where
  /-- The state tells what it is about to do. -/
  | starting
  /-- A request is sent. -/
  | awaiting
  /-- It failed, and the first half of its end is done. -/
  | failing (error : Error)
deriving DecidableEq

/-- Whether an exchange is between the two halves of its end. -/
def Stage.isFailing : Stage → Bool
  | failing _ => true
  | starting | awaiting => false

/-- A call to un-REGISTER that has not looked at the state yet. -/
structure Asker where
  call : CallId
  /-- Whether it does what was deferred to its attempt to register. -/
  deferred : Bool
deriving DecidableEq

/-- A manager and the calls on their way to it. -/
structure Workers where
  manager : Manager
  /-- How far the exchange under way has come, if there is one. -/
  stage : Stage := .awaiting
  asking : List Asker := []
  /-- The calls that are about to get in line for the lock. -/
  joining : List Waiter := []
deriving DecidableEq

/-- What a call does in one piece. -/
inductive Moment where
  | begun (call : CallId) (what : Call)
  /-- A call to un-REGISTER looks at the state, and is deferred if a REGISTER is under way. -/
  | asked (call : CallId)
  /-- A call gets in line for the lock. -/
  | joined (call : CallId)
  /-- The first call in line takes the lock. -/
  | granted
  /-- The first request of an exchange is composed. -/
  | composed
  | replied (reply : Reply)
  /-- The second half of the end of an exchange that failed. -/
  | settled
  /-- The listener returns from the notice that a call gave it. -/
  | returned (call : CallId)
  | fired (call : CallId)
deriving DecidableEq

/-- The moments of a run, each with its point of time, the first one first. -/
abbrev Schedule := List (Instant × Moment)

namespace Workers

open Manager

/-- A call gets ready to look at the state, if it is to un-REGISTER, or else to get in line. -/
def begin (w : Workers) (call : CallId) (what : Call) : Workers :=
  if what = .unregister then { w with asking := w.asking ++ [⟨call, false⟩] }
  else { w with joining := w.joining ++ [⟨call, what.errand⟩] }

/-- Looks at the state: with a REGISTER under way the un-REGISTER is left to that attempt. -/
def ask (w : Workers) (asker : Asker) : Workers :=
  if w.manager.state = .registering then
    { w with
      manager := { w.manager with deferred := true }
      asking := w.asking.erase asker }
  else
    { w with
      asking := w.asking.erase asker
      joining := w.joining ++ [⟨asker.call, .unregister asker.deferred⟩] }

/-- Gets in line. -/
def join (w : Workers) (waiter : Waiter) : Workers :=
  { w with
    manager := { w.manager with waiting := w.manager.waiting ++ [waiter] }
    joining := w.joining.erase waiter }

/-- What the first in line does with the lock, when it has left the line. -/
def grant (w : Workers) (first : Waiter) : Workers :=
  match w.manager.work? first.errand with
  | some (.exchange purpose) =>
    { w with
      manager := { w.manager.prepare purpose with exchange := some ⟨first.call, purpose⟩ }
      stage := .starting }
  | some (.stop thenRegister) =>
    { w with manager := (w.manager.perform first.call (.stop thenRegister)).1 }
  | none => { w with joining := w.joining ++ w.manager.followUp first }

/-- The first half of the end of an exchange that failed. -/
def giveUp (w : Workers) (m : Manager) (error : Error) : Workers :=
  { w with manager := m.giveUp, stage := .failing error }

/-- Sends the next request of an exchange, or begins to end the exchange. -/
def send (w : Workers) (m : Manager) (purpose : Purpose) : Workers :=
  match m.compose purpose with
  | (.ok _, m) => { w with manager := m, stage := .awaiting }
  | (.error error, m) => w.giveUp m error

/-- Takes in what came of the request under way. -/
def receive (w : Workers) (now : Instant) (exchange : Exchange) (reply : Reply) : Workers :=
  match w.manager.judgeReply now exchange.purpose reply with
  | (m, .resend) => w.send { m with dialog := m.dialog.map Dialog.advance } exchange.purpose
  | (m, .done) => { w with manager := (m.succeed exchange.call exchange.purpose).1 }
  | (m, .fail error) => w.giveUp m error

/-- Goes on with a call after the listener returned. The flag is taken here; the state is looked
at later. -/
def resume (w : Workers) (callback : Callback) : Workers :=
  let m := { w.manager with callbacks := w.manager.callbacks.erase callback }
  match callback.afterwards with
  | .performDeferred =>
    if m.deferred then
      { w with
        manager := { m with deferred := false }
        asking := w.asking ++ [⟨callback.call, true⟩] }
    else { w with manager := m }
  | .register => { w with manager := m, joining := w.joining ++ [⟨callback.call, .register⟩] }
  | .answerFailed | .answerRegistered | .done => { w with manager := m }

/-- What a moment at a point of time does. A moment that has nothing to act on does nothing. -/
def step (w : Workers) (now : Instant) : Moment → Workers
  | .begun call what => w.begin call what
  | .asked call => (w.asking.find? (·.call = call)).elim w w.ask
  | .joined call => (w.joining.find? (·.call = call)).elim w w.join
  | .granted =>
    match w.manager.exchange, w.manager.waiting with
    | none, first :: waiting => { w with manager := { w.manager with waiting } }.grant first
    | _, _ => w
  | .composed =>
    match w.manager.exchange, w.stage with
    | some exchange, .starting => w.send w.manager exchange.purpose
    | _, _ => w
  | .replied reply =>
    match w.manager.exchange, w.stage with
    | some exchange, .awaiting => w.receive now exchange reply
    | _, _ => w
  | .settled =>
    match w.manager.exchange, w.stage with
    | some ⟨call, purpose⟩, .failing error =>
      { w with manager := (w.manager.settle call purpose error).1, stage := .awaiting }
    | _, _ => w
  | .returned call => (w.manager.callbacks.find? (·.call = call)).elim w w.resume
  | .fired call =>
    if w.manager.timer.isDue now.wholeMilliseconds.toNat then
      { w with
        manager := { w.manager with timer := w.manager.timer.stop }
        joining := w.joining ++ [⟨call, .refresh⟩] }
    else w

/-- What a moment at a point of time leads to. -/
def next (w : Workers) (entry : Instant × Moment) : Workers := w.step entry.1 entry.2

/-- The workers after a run. -/
def after (w : Workers) (schedule : Schedule) : Workers := Run.after next w schedule

/-- What is observed along a run, where an observation is made of the workers that each moment
finds. -/
def along {α : Type} (observe : Workers → Instant → Moment → List α) (w : Workers)
    (schedule : Schedule) : List α :=
  Run.along next (fun w entry => observe w entry.1 entry.2) w schedule

/-- The calls in progress: those on their way to the manager, and those that the manager has. -/
def inProgress (w : Workers) : List CallId :=
  w.asking.map Asker.call ++ (w.joining.map Waiter.call ++ w.manager.inProgress)

/-- A run that goes on leads where its rest leads from where it stood. -/
theorem after_append (w : Workers) (first rest : Schedule) :
    w.after (first ++ rest) = (w.after first).after rest := Run.after_append w first rest

/-- One more moment takes the workers one step further. -/
theorem after_concat (w : Workers) (schedule : Schedule) (now : Instant) (moment : Moment) :
    w.after (schedule ++ [(now, moment)]) = (w.after schedule).step now moment :=
  Run.after_concat w schedule (now, moment)

/-- One more moment adds what is observed of it. -/
theorem along_concat {α : Type} (observe : Workers → Instant → Moment → List α) (w : Workers)
    (schedule : Schedule) (now : Instant) (moment : Moment) :
    w.along observe (schedule ++ [(now, moment)]) =
      w.along observe schedule ++ observe (w.after schedule) now moment :=
  Run.along_concat w schedule (now, moment)

/-! ### One worker -/

/-- A manager with no call on its way to it. -/
def alone (m : Manager) : Workers := { manager := m }

/-- From some workers, moments at one point of time with nothing in between lead to others. -/
def Reaches (now : Instant) (w v : Workers) : Prop :=
  ∃ moments : List Moment, w.after (moments.map fun moment => (now, moment)) = v

variable {now : Instant} {m : Manager} {u v w : Workers}

theorem Reaches.refl (now : Instant) (w : Workers) : Reaches now w w := ⟨[], rfl⟩

theorem Reaches.trans (hfirst : Reaches now u v) (hrest : Reaches now v w) : Reaches now u w := by
  obtain ⟨first, rfl⟩ := hfirst
  obtain ⟨rest, rfl⟩ := hrest
  exact ⟨first ++ rest, by rw [List.map_append, after_append]⟩

variable (now)

/-- One moment leads where its step does. -/
theorem reaches_step (moment : Moment) (hstep : w.step now moment = v) : Reaches now w v :=
  ⟨[moment], hstep⟩

/-- The two halves of the end of an exchange that failed, with nothing in between. -/
theorem reaches_fail {call : CallId} {purpose : Purpose} (w : Workers) (error : Error)
    (hheld : m.exchange = some ⟨call, purpose⟩) :
    Reaches now (w.giveUp m error)
      { w with manager := (m.fail call purpose error).1, stage := .awaiting } := by
  refine reaches_step now .settled ?_
  simp only [step, giveUp, Manager.giveUp, hheld]
  rfl

/-- An exchange sends its next request, or comes to its end with nothing in between. -/
theorem reaches_send {call : CallId} {purpose : Purpose} (w : Workers)
    (hheld : m.exchange = some ⟨call, purpose⟩) :
    Reaches now (w.send m purpose)
      { w with manager := (m.send call purpose).1, stage := .awaiting } := by
  have hkept := (m.compose_learns purpose).exchange.trans hheld
  simp only [send, Manager.send]
  rcases hcompose : m.compose purpose with ⟨composed, n⟩
  rw [hcompose] at hkept
  cases composed with
  | ok request =>
    simp only [← hkept]
    exact .refl now _
  | error error => exact reaches_fail now w error hkept

/-- A call that is the only one on its way gets in line. -/
theorem step_joined (m : Manager) (waiter : Waiter) :
    { alone m with joining := [waiter] }.step now (.joined waiter.call) =
      alone { m with waiting := m.waiting ++ [waiter] } := by
  simp [step, join, alone]

/-- The first in line takes the lock if nobody holds it. -/
theorem step_granted {first : Waiter} {rest : List Waiter} (hfree : m.exchange = none)
    (hline : m.waiting = first :: rest) :
    (alone m).step now .granted = (alone { m with waiting := rest }).grant first := by
  simp only [step, alone, hfree, hline]

/-- A turn that comes to an exchange, with nothing in between. -/
theorem reaches_exchange {first : Waiter} {rest : List Waiter} {purpose : Purpose}
    (hfree : m.exchange = none) (hline : m.waiting = first :: rest)
    (hwork : { m with waiting := rest }.work? first.errand = some (.exchange purpose)) :
    Reaches now (alone m)
      (alone ({ m with waiting := rest }.startExchange first.call purpose).1) := by
  have hgrant := reaches_step now .granted (step_granted now hfree hline)
  simp only [grant, alone, hwork] at hgrant
  refine (hgrant.trans (reaches_step now .composed rfl)).trans ?_
  rw [startExchange_eq, ← send_exchange _ (some ⟨first.call, purpose⟩)]
  exact reaches_send now _ rfl

/-- A turn with nothing in between. -/
theorem reaches_run {first : Waiter} {rest : List Waiter} (hfree : m.exchange = none)
    (hline : m.waiting = first :: rest) :
    Reaches now (alone m) (alone ({ m with waiting := rest }.run first.call first.errand).1) := by
  have hgrant := reaches_step now .granted (step_granted now hfree hline)
  cases hwork : { m with waiting := rest }.work? first.errand with
  | some work =>
    rw [run_of_work hwork]
    cases work with
    | exchange purpose => exact reaches_exchange now hfree hline hwork
    | stop thenRegister => simpa only [grant, alone, hwork] using hgrant
  | none =>
    have hgrant' : Reaches now (alone m) { alone { m with waiting := rest } with
        joining := { m with waiting := rest }.followUp first } := by
      simpa only [grant, alone, hwork, List.nil_append] using hgrant
    by_cases hfollow : { m with waiting := rest }.followUp first = []
    · obtain ⟨answer, hrun⟩ : ∃ answer, { m with waiting := rest }.run first.call first.errand =
          ({ m with waiting := rest }, [.finish first.call answer]) :=
        run_of_no_work hwork hfollow
      rw [hrun]
      simpa only [hfollow, alone] using hgrant'
    -- A restart that finds nothing to stop gets in line again, perhaps to have its turn at once.
    · obtain ⟨_, hregister, hrun⟩ := run_of_follow_up hfollow
      rw [hregister] at hgrant'
      have hjoin := hgrant'.trans
        (reaches_step now (.joined first.call) (step_joined now _ ⟨first.call, .register⟩))
      rw [hrun]
      refine hjoin.trans ?_
      by_cases hrest : rest = []
      · subst hrest
        have hturn : Reaches now (alone { m with waiting := [⟨first.call, .register⟩] }) _ :=
          reaches_exchange now hfree rfl rfl
        have hidle : { m with waiting := [] }.isFree = true := by simp [isFree, hfree]
        simp only [enter, hidle, if_true]
        exact hturn
      · have hbusy : { m with waiting := rest }.isFree = false := by simp [isFree, hfree, hrest]
        simp only [enter, hbusy, Bool.false_eq_true, if_false]
        exact .refl now _

/-- A call gets in line, and has its turn with nothing in between if the lock is free. -/
theorem reaches_enter (m : Manager) (waiter : Waiter) :
    Reaches now { alone m with joining := [waiter] }
      (alone (m.enter run waiter.call waiter.errand).1) := by
  have hjoin := reaches_step now (.joined waiter.call) (step_joined now m waiter)
  by_cases hfree : m.isFree = true
  · obtain ⟨hlock, hempty⟩ := isFree_iff.mp hfree
    have hsame : { m with waiting := [] } = m := by rw [← hempty]
    have hline : m.waiting ++ [waiter] = waiter :: [] := by rw [hempty, List.nil_append]
    have hturn : Reaches now (alone { m with waiting := m.waiting ++ [waiter] }) _ :=
      reaches_run now hlock hline
    simp only [hsame] at hturn
    simpa only [enter, hfree, if_true] using hjoin.trans hturn
  · simpa only [enter, hfree, if_false, Bool.false_eq_true] using hjoin

/-- A call to un-REGISTER looks at the state and goes on, with nothing in between. -/
theorem reaches_beginUnregister (m : Manager) (call : CallId) (deferred : Bool) :
    Reaches now { alone m with asking := [⟨call, deferred⟩] }
      (alone (m.beginUnregister call deferred).1) := by
  have hask : Reaches now { alone m with asking := [⟨call, deferred⟩] } _ :=
    reaches_step now (.asked call) rfl
  by_cases hstate : m.state = .registering
  · simpa [step, ask, alone, hstate, beginUnregister, finish] using hask
  · simp only [beginUnregister, hstate, if_false]
    refine .trans ?_ (reaches_enter now m ⟨call, .unregister deferred⟩)
    simpa [step, ask, alone, hstate] using hask

/-- A call begins and goes on, with nothing in between. -/
theorem reaches_begin (m : Manager) (call : CallId) (what : Call) :
    Reaches now (alone m) (alone (m.begin call what).1) := by
  have hbegin : Reaches now (alone m) _ := reaches_step now (.begun call what) rfl
  by_cases hunregister : what = .unregister
  · subst hunregister
    exact hbegin.trans (reaches_beginUnregister now m call false)
  · rw [begin_eq, if_neg (fun h => hunregister h.1)]
    refine .trans ?_ (reaches_enter now m ⟨call, what.errand⟩)
    simpa only [step, begin, alone, hunregister, if_false, List.nil_append] using hbegin

/-- A reply is taken in with nothing in between. -/
theorem reaches_receive (m : Manager) (reply : Reply) :
    Reaches now (alone m) (alone (m.receive now reply).1) := by
  cases hexchange : m.exchange with
  | none =>
    rw [receive_of_no_exchange now reply hexchange]
    exact .refl now _
  | some exchange =>
    obtain ⟨call, purpose⟩ := exchange
    have hreply : Reaches now (alone m) ((alone m).receive now ⟨call, purpose⟩ reply) :=
      reaches_step now (.replied reply) (by simp only [step, alone, hexchange])
    refine hreply.trans ?_
    have hheld := (m.judgeReply_exchange now purpose reply).trans hexchange
    simp only [receive, Manager.receive, hexchange]
    rw [show (alone m).manager = m from rfl]
    rcases hjudge : m.judgeReply now purpose reply with ⟨n, verdict⟩
    rw [hjudge] at hheld
    cases verdict with
    | done => exact .refl now _
    | fail error => exact reaches_fail now _ error hheld
    | resend => exact reaches_send now _ hheld

/-- What becomes of a call when the listener returns, with nothing in between. -/
theorem reaches_resume (m : Manager) (callback : Callback) :
    Reaches now ((alone m).resume callback)
      (alone ({ m with callbacks := m.callbacks.erase callback }.resume callback.call
        callback.afterwards).1) := by
  obtain ⟨call, afterwards⟩ := callback
  cases afterwards with
  | answerFailed | answerRegistered | done => exact .refl now _
  | register => exact reaches_enter now _ ⟨call, .register⟩
  | performDeferred =>
    by_cases hdeferred : m.deferred = true
    · simp only [resume, Manager.resume, alone, hdeferred, if_true]
      exact reaches_beginUnregister now _ call true
    · simp only [resume, Manager.resume, alone, hdeferred, if_false, Bool.false_eq_true]
      exact .refl now _

/-- Every event of the manager is a row of moments with nothing in between. -/
theorem reaches_event (m : Manager) (event : Event) :
    Reaches now (alone m) (alone (m.step now event).1) := by
  cases event with
  | called call what => exact reaches_begin now m call what
  | replied reply => exact reaches_receive now m reply
  | granted =>
    cases hfree : m.exchange with
    | some exchange =>
      simpa only [Manager.step, Manager.grant, hfree] using Reaches.refl now (alone m)
    | none =>
      cases hline : m.waiting with
      | nil =>
        simpa only [Manager.step, Manager.grant, hfree, hline] using Reaches.refl now (alone m)
      | cons first rest =>
        simpa only [Manager.step, Manager.grant, hfree, hline] using reaches_run now hfree hline
  | returned call =>
    cases hfind : m.callbacks.find? (·.call = call) with
    | none => simpa only [Manager.step, hfind] using Reaches.refl now (alone m)
    | some callback =>
      have hcall : callback.call = call := by simpa using List.find?_some hfind
      subst hcall
      simp only [Manager.step, hfind]
      refine .trans (reaches_step now (.returned callback.call) ?_) (reaches_resume now m callback)
      simp only [step, alone, hfind, Option.elim]
  | fired call =>
    by_cases hdue : m.timer.isDue now.wholeMilliseconds.toNat = true
    · simp only [Manager.step, Timer.fire?, hdue, if_true]
      refine .trans (reaches_step now (.fired call) ?_) (reaches_enter now _ ⟨call, .refresh⟩)
      simp only [step, alone, hdue, if_true, List.nil_append]
    · simpa only [Manager.step, Timer.fire?, hdue, if_false, Bool.false_eq_true] using
        Reaches.refl now (alone m)

/-- **One worker.** Where the events of a run lead, the moments of some run lead. -/
theorem exists_schedule (m : Manager) (history : History) :
    ∃ schedule, (alone m).after schedule = alone (m.after history) := by
  refine after_induction (p := fun _ n => ∃ schedule, (alone m).after schedule = alone n) m
    ⟨[], rfl⟩ ?_ history
  rintro history now event ⟨schedule, hschedule⟩
  obtain ⟨moments, hmoments⟩ := reaches_event now (m.after history) event
  refine ⟨schedule ++ moments.map fun moment => (now, moment), ?_⟩
  rw [after_append, hschedule]
  exact hmoments

end Workers

end ImsClient.Registration
