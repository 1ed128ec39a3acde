import ImsClient.Proofs.Registration.Run

/-!
# Turns with the lock

A call that works on the registration gets in line, and the first in line has its
turn with the lock when the lock is free. A step of the manager is broken down here
into moves, each of which does one of these things, so that what holds of a step is
shown of the moves, one after another.
-/

namespace ImsClient.Registration

/-- What a caller gets in line for. -/
def Call.errand : Call → Errand
  | register => .register
  | refresh => .refresh
  | stop => .stop false
  | restart => .stop true
  | unregister => .unregister false

/-- What a call does with its turn, if it does anything but end. -/
inductive Work where
  /-- An exchange with the registrar, which keeps the lock until it ends. -/
  | exchange (purpose : Purpose)
  /-- To drop the registration, which gives the lock back at once. -/
  | stop (thenRegister : Bool)
deriving DecidableEq

/-- How a call begins: a caller asks for something, or the refresh timer fires. -/
inductive Origin where
  | caller (call : CallId) (what : Call)
  | timer (call : CallId)
deriving DecidableEq

/-- The call that begins. -/
def Origin.call : Origin → CallId
  | caller call _ | timer call => call

/-- A turn with the lock: who has it, and the work that it comes to, if it comes to any. -/
structure Turn where
  waiter : Waiter
  work : Option Work
deriving DecidableEq

namespace Manager

/-- The work that an errand comes to with the manager as it stands. There is nothing to refresh,
to stop or to un-REGISTER without a registration. -/
def work? (m : Manager) : Errand → Option Work
  | .register => some (.exchange .register)
  | .refresh => if m.registered && m.dialog.isSome then some (.exchange .register) else none
  | .stop thenRegister => if m.registered then some (.stop thenRegister) else none
  | .unregister deferred =>
    if m.registered then some (.exchange (.unregister deferred)) else none

/-- The turn of a waiter with the manager as it stands. -/
def turn (m : Manager) (waiter : Waiter) : Turn := ⟨waiter, m.work? waiter.errand⟩

@[simp] theorem turn_waiter (m : Manager) (waiter : Waiter) : (m.turn waiter).waiter = waiter := rfl

/-- Starts an exchange for a call that has the lock. -/
def startExchange (m : Manager) (call : CallId) : Purpose → Manager × List Effect
  | .register => m.startRegister call
  | .unregister deferred => m.startUnregister call deferred

/-- Does the work of a call that has the lock. -/
def perform (m : Manager) (call : CallId) : Work → Manager × List Effect
  | .exchange purpose => m.startExchange call purpose
  | .stop thenRegister =>
    m.release.tell call .terminated (if thenRegister then .register else .done)

/-- Who gets in line because of a turn: a restart that finds nothing to stop goes on to register. -/
def followUp (m : Manager) (waiter : Waiter) : List Waiter :=
  if waiter.errand = .stop true ∧ m.registered = false then [⟨waiter.call, .register⟩] else []

/-- Who gets in line when a waiter does, who may have a turn at once. -/
def arrivals (m : Manager) (waiter : Waiter) : List Waiter :=
  waiter :: if m.isFree then m.followUp waiter else []

/-- Who gets in line when the listener returns from a notice that a call gave it. -/
def resumptions (m : Manager) (callback : Callback) : List Waiter :=
  match callback.afterwards with
  | .register => m.arrivals ⟨callback.call, .register⟩
  | .performDeferred =>
    if m.deferred = true ∧ m.state ≠ .registering then
      m.arrivals ⟨callback.call, .unregister true⟩
    else []
  | _ => []

/-- The calls that begin with an event. -/
def begins (m : Manager) (now : Instant) : Event → List Origin
  | .called call what => [.caller call what]
  | .fired call => if m.timer.isDue now.wholeMilliseconds.toNat then [.timer call] else []
  | _ => []

/-- Who gets in line on an event, in order. To un-REGISTER during a REGISTER takes no place in
line: it is left to the call that the REGISTER is for. -/
def joins (m : Manager) (now : Instant) : Event → List Waiter
  | .called call what =>
    if what = .unregister ∧ m.state = .registering then [] else m.arrivals ⟨call, what.errand⟩
  | .granted =>
    match m.exchange, m.waiting with
    | none, first :: _ => m.followUp first
    | _, _ => []
  | .replied _ => []
  | .returned call => (m.callbacks.find? (·.call = call)).elim [] m.resumptions
  | .fired call =>
    if m.timer.isDue now.wholeMilliseconds.toNat then m.arrivals ⟨call, .refresh⟩ else []

/-- The turns with the lock on an event, in order: that of the first in line when the lock is given
to it, or those of whoever gets in line while nobody else waits. -/
def turns (m : Manager) (now : Instant) : Event → List Turn
  | .granted =>
    match m.exchange, m.waiting with
    | none, first :: rest => (first :: if rest = [] then m.followUp first else []).map m.turn
    | _, _ => []
  | event => if m.isFree then (m.joins now event).map m.turn else []

end Manager

open Manager

/-- One thing that happens between two replies of the registrar: the calls that begin with it,
who gets in line, who has a turn, and what it does to the manager and to the world. -/
inductive Move : Manager → List Origin → List Waiter → List Turn → Manager → List Effect → Prop
  | arrive (m : Manager) (call : CallId) (what : Call) :
      Move m [.caller call what] [⟨call, what.errand⟩] []
        { m with waiting := m.waiting ++ [⟨call, what.errand⟩] } []
  | fire (m : Manager) (call : CallId) (hpending : m.timer.isPending = true) :
      Move m [.timer call] [⟨call, .refresh⟩] []
        { m with timer := m.timer.stop, waiting := m.waiting ++ [⟨call, .refresh⟩] } []
  | defer (m : Manager) (call : CallId) (answer : Option Bool) (hstate : m.state = .registering) :
      Move m [.caller call .unregister] [] [] { m with deferred := true } [.finish call answer]
  | conclude (m : Manager) (callback : Callback) (answer : Option Bool)
      (hcallback : callback ∈ m.callbacks)
      (hdeferred : callback.afterwards = .performDeferred → m.deferred = true →
        m.state = .registering) :
      Move m [] [] [] { m with callbacks := m.callbacks.erase callback }
        [.finish callback.call answer]
  | redeem (m : Manager) (callback : Callback) (hcallback : callback ∈ m.callbacks)
      (hafterwards : callback.afterwards = .performDeferred) (hdeferred : m.deferred = true)
      (hstate : m.state ≠ .registering) :
      Move m [] [⟨callback.call, .unregister true⟩] []
        { m with
          callbacks := m.callbacks.erase callback
          deferred := false
          waiting := m.waiting ++ [⟨callback.call, .unregister true⟩] } []
  | proceed (m : Manager) (callback : Callback) (hcallback : callback ∈ m.callbacks)
      (hafterwards : callback.afterwards = .register) :
      Move m [] [⟨callback.call, .register⟩] []
        { m with
          callbacks := m.callbacks.erase callback
          waiting := m.waiting ++ [⟨callback.call, .register⟩] } []
  | decline (m : Manager) (first : Waiter) (rest : List Waiter) (answer : Option Bool)
      (hfree : m.exchange = none) (hline : m.waiting = first :: rest)
      (hwork : m.work? first.errand = none) (hfollow : m.followUp first = []) :
      Move m [] [] [m.turn first] { m with waiting := rest } [.finish first.call answer]
  | pass (m : Manager) (first : Waiter) (rest : List Waiter) (hfree : m.exchange = none)
      (hline : m.waiting = first :: rest) (hwork : m.work? first.errand = none)
      (hfollow : m.followUp first = [⟨first.call, .register⟩]) :
      Move m [] [⟨first.call, .register⟩] [m.turn first]
        { m with waiting := rest ++ [⟨first.call, .register⟩] } []
  | work (m : Manager) (first : Waiter) (rest : List Waiter) (work : Work)
      (hfree : m.exchange = none) (hline : m.waiting = first :: rest)
      (hwork : m.work? first.errand = some work) :
      Move m [] [] [m.turn first] ({ m with waiting := rest }.perform first.call work).1
        ({ m with waiting := rest }.perform first.call work).2

/-- Moves one after another. -/
inductive Moves : Manager → List Origin → List Waiter → List Turn → Manager → List Effect → Prop
  | refl (m : Manager) : Moves m [] [] [] m []
  | cons {m m₁ m₂ : Manager} {begun begun' : List Origin} {joined joined' : List Waiter}
      {served served' : List Turn} {effects effects' : List Effect} :
      Move m begun joined served m₁ effects → Moves m₁ begun' joined' served' m₂ effects' →
      Moves m (begun ++ begun') (joined ++ joined') (served ++ served') m₂ (effects ++ effects')

namespace Moves

/-- One move by itself. -/
theorem single {m m₁ : Manager} {begun : List Origin} {joined : List Waiter} {served : List Turn}
    {effects : List Effect} (hmove : Move m begun joined served m₁ effects) :
    Moves m begun joined served m₁ effects := by
  simpa only [List.append_nil] using Moves.cons hmove (.refl m₁)

end Moves

namespace Manager

/-- A call with an errand that comes to work does that work. -/
theorem run_of_work {m : Manager} {call : CallId} {errand : Errand} {work : Work}
    (hwork : m.work? errand = some work) : m.run call errand = m.perform call work := by
  cases errand with
  | register =>
    cases hwork
    rfl
  | refresh =>
    simp only [work?, Option.ite_none_right_eq_some, Option.some.injEq] at hwork
    obtain ⟨hregistered, rfl⟩ := hwork
    simp only [run, runExchange, hregistered, if_true, perform, startExchange]
  | stop thenRegister =>
    simp only [work?, Option.ite_none_right_eq_some, Option.some.injEq] at hwork
    obtain ⟨hregistered, rfl⟩ := hwork
    simp only [run, hregistered, if_true, perform]
  | unregister deferred =>
    simp only [work?, Option.ite_none_right_eq_some, Option.some.injEq] at hwork
    obtain ⟨hregistered, rfl⟩ := hwork
    simp only [run, runExchange, hregistered, if_true, perform, startExchange]

/-- A call with an errand that comes to nothing ends, unless it goes on to register. -/
theorem run_of_no_work {m : Manager} {call : CallId} {errand : Errand}
    (hwork : m.work? errand = none) (hfollow : m.followUp ⟨call, errand⟩ = []) :
    ∃ answer, m.run call errand = (m, [.finish call answer]) := by
  cases errand with
  | register => cases hwork
  | refresh =>
    simp only [work?, ite_eq_right_iff, reduceCtorEq, imp_false] at hwork
    exact ⟨some false, by simp only [run, runExchange, if_neg hwork, finish]⟩
  | stop thenRegister =>
    simp only [work?, ite_eq_right_iff, reduceCtorEq, imp_false] at hwork
    have hthen : thenRegister = false := by
      simpa [followUp, hwork] using hfollow
    exact ⟨none, by simp only [run, if_neg hwork, hthen, Bool.false_eq_true, if_false, finish]⟩
  | unregister deferred =>
    simp only [work?, ite_eq_right_iff, reduceCtorEq, imp_false] at hwork
    exact ⟨m.answerOf deferred, by simp only [run, runExchange, if_neg hwork, finish]⟩

/-- A restart that finds nothing to stop gets in line to register, and has its turn if nobody
else waits. -/
theorem run_of_follow_up {m : Manager} {first : Waiter} (hfollow : m.followUp first ≠ []) :
    m.work? first.errand = none ∧ m.followUp first = [⟨first.call, .register⟩] ∧
      m.run first.call first.errand = m.enter runExchange first.call .register := by
  by_cases hpass : first.errand = .stop true ∧ m.registered = false
  · obtain ⟨herrand, hregistered⟩ := hpass
    refine ⟨?_, ?_, ?_⟩
    · simp only [herrand, work?, hregistered, Bool.false_eq_true, if_false]
    · simp only [followUp, herrand, hregistered, and_self, if_true]
    · simp only [herrand, run, hregistered, Bool.false_eq_true, if_false, if_true]
  · simp only [followUp, hpass, if_false, ne_eq, not_true_eq_false] at hfollow

/-- What the first in line does with its turn: its work, or to go on to register, or to end. -/
theorem moves_run {m : Manager} {first : Waiter} {rest : List Waiter} (hfree : m.exchange = none)
    (hline : m.waiting = first :: rest) :
    Moves m [] (m.followUp first)
      ((first :: if rest = [] then m.followUp first else []).map m.turn)
      ({ m with waiting := rest }.run first.call first.errand).1
      ({ m with waiting := rest }.run first.call first.errand).2 := by
  by_cases hfollow : m.followUp first = []
  · rw [hfollow, ite_self]
    cases hwork : m.work? first.errand with
    | some work =>
      rw [run_of_work (m := { m with waiting := rest }) hwork]
      exact .single (.work m first rest work hfree hline hwork)
    | none =>
      obtain ⟨answer, hrun⟩ := run_of_no_work (m := { m with waiting := rest }) hwork hfollow
      rw [hrun]
      exact .single (.decline m first rest answer hfree hline hwork hfollow)
  · obtain ⟨hnone, hregister, hrun⟩ := run_of_follow_up (m := { m with waiting := rest }) hfollow
    have hpass := Move.pass m first rest hfree hline hnone hregister
    rw [hrun, show m.followUp first = [⟨first.call, .register⟩] from hregister]
    by_cases hrest : rest = []
    · subst hrest
      simpa [enter, isFree, hfree, runExchange, perform, startExchange, turn, work?] using
        Moves.cons hpass
          (.single (.work _ ⟨first.call, .register⟩ [] (.exchange .register) hfree rfl rfl))
    · simpa [enter, isFree, hfree, hrest] using Moves.single hpass

/-- The lock can be taken at once exactly if no call holds it and nobody waits for it. -/
theorem isFree_iff {m : Manager} : m.isFree = true ↔ m.exchange = none ∧ m.waiting = [] := by
  simp only [isFree, Bool.and_eq_true, Option.isNone_iff_eq_none, List.isEmpty_iff]

/-- A call that gets in line has its turn at once if the lock is free and nobody else waits. -/
theorem moves_enter {m : Manager} (n : Manager) {begun : List Origin} {waiter : Waiter}
    (hjoin : Move m begun [waiter] [] { n with waiting := n.waiting ++ [waiter] } []) :
    Moves m begun (n.arrivals waiter) (if n.isFree then (n.arrivals waiter).map n.turn else [])
      (n.enter run waiter.call waiter.errand).1 (n.enter run waiter.call waiter.errand).2 := by
  by_cases hfree : n.isFree = true
  · obtain ⟨hlock, hempty⟩ := isFree_iff.mp hfree
    have hline : n.waiting ++ [waiter] = waiter :: [] := by rw [hempty, List.nil_append]
    have hsame : { n with waiting := [] } = n := by rw [← hempty]
    have hturn := moves_run (m := { n with waiting := n.waiting ++ [waiter] }) hlock hline
    simp only [hsame, if_true] at hturn
    have hmoves := Moves.cons hjoin hturn
    simp only [List.append_nil, List.nil_append] at hmoves
    simp only [arrivals, enter, hfree, if_true]
    exact hmoves
  · simpa only [arrivals, enter, hfree, if_false, Bool.false_eq_true] using Moves.single hjoin

/-- A call that begins gets in line for its errand, unless it is to un-REGISTER during a
REGISTER. -/
theorem begin_eq (m : Manager) (call : CallId) (what : Call) :
    m.begin call what =
      if what = .unregister ∧ m.state = .registering then
        { m with deferred := true }.finish call none
      else m.enter run call what.errand := by
  cases what with
  | unregister => simp [begin, beginUnregister, answerOf, Call.errand]
  | register | refresh | stop | restart => rfl

/-- What becomes of a call when the listener returns from a notice that the call gave it. -/
theorem moves_resume {m : Manager} {callback : Callback} (hcallback : callback ∈ m.callbacks) :
    Moves m [] (m.resumptions callback)
      (if m.isFree then (m.resumptions callback).map m.turn else [])
      ({ m with callbacks := m.callbacks.erase callback }.resume callback.call
        callback.afterwards).1
      ({ m with callbacks := m.callbacks.erase callback }.resume callback.call
        callback.afterwards).2 := by
  obtain ⟨call, afterwards⟩ := callback
  have hconclude (answer : Option Bool)
      (hdeferred : afterwards = .performDeferred → m.deferred = true → m.state = .registering) :=
    Moves.single (.conclude m ⟨call, afterwards⟩ answer hcallback hdeferred)
  cases afterwards with
  | answerFailed | answerRegistered | done =>
    simpa only [resumptions, resume, finish, List.map_nil, ite_self] using hconclude _ (by simp)
  | register =>
    exact moves_enter { m with callbacks := m.callbacks.erase _ } (.proceed m _ hcallback rfl)
  | performDeferred =>
    by_cases hdeferred : m.deferred = true
    · by_cases hstate : m.state = .registering
      · have hsame : { m with deferred := true } = m := by
          rw [← hdeferred]
        simpa [resumptions, resume, beginUnregister, finish, hdeferred, hstate] using
          hconclude _ (fun _ _ => hstate)
      · have hmoves := moves_enter { m with callbacks := m.callbacks.erase _, deferred := false }
          (.redeem m _ hcallback rfl hdeferred hstate)
        simp only [resumptions, resume, beginUnregister, hdeferred, hstate, ne_eq,
          not_false_eq_true, and_self, if_true, if_false]
        exact hmoves
    · simpa [resumptions, resume, finish, hdeferred] using
        hconclude (some m.registered) (fun _ h => absurd h hdeferred)

/-- **What a step does.** Between two replies of the registrar, every event comes to a few moves,
with the calls that begin, who gets in line and who has a turn as `begins`, `joins` and `turns`
tell. -/
theorem moves_step (m : Manager) (now : Instant) {event : Event}
    (hevent : ∀ reply, event ≠ .replied reply) :
    Moves m (m.begins now event) (m.joins now event) (m.turns now event)
      (m.step now event).1 (m.step now event).2 := by
  cases event with
  | replied reply => exact absurd rfl (hevent reply)
  | called call what =>
    simp only [begins, joins, turns, step, begin_eq]
    by_cases hdefer : what = .unregister ∧ m.state = .registering
    · obtain ⟨rfl, hstate⟩ := hdefer
      simpa only [hstate, and_self, if_true, List.map_nil, ite_self, finish] using
        Moves.single (.defer m call none hstate)
    · simpa only [hdefer, if_false] using moves_enter m (.arrive m call what)
  | granted =>
    cases hfree : m.exchange with
    | some exchange => simpa only [begins, joins, turns, step, grant, hfree] using Moves.refl m
    | none =>
      cases hline : m.waiting with
      | nil => simpa only [begins, joins, turns, step, grant, hfree, hline] using Moves.refl m
      | cons first rest =>
        simpa only [begins, joins, turns, step, grant, hfree, hline] using moves_run hfree hline
  | returned call =>
    simp only [begins, joins, turns, step]
    cases hfind : m.callbacks.find? (·.call = call) with
    | none => simpa only [Option.elim, List.map_nil, ite_self] using Moves.refl m
    | some callback =>
      have hcall : callback.call = call := by simpa using List.find?_some hfind
      subst hcall
      exact moves_resume (List.mem_of_find?_eq_some hfind)
  | fired call =>
    simp only [begins, joins, turns, step, Timer.fire?]
    by_cases hdue : m.timer.isDue now.wholeMilliseconds.toNat = true
    · have hpending : m.timer.isPending = true := by
        unfold Timer.isDue at hdue
        unfold Timer.isPending
        cases hpending : m.timer.pending with
        | none => simp [hpending] at hdue
        | some arming => rfl
      simp only [hdue, if_true]
      exact moves_enter { m with timer := m.timer.stop } (.fire m call hpending)
    · simpa only [hdue, if_false, Bool.false_eq_true, List.map_nil, ite_self] using Moves.refl m

end Manager

end ImsClient.Registration
