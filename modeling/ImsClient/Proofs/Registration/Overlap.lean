import ImsClient.Proofs.Places
import ImsClient.Proofs.Registration.Standing
import ImsClient.Proofs.Registration.Workers

/-!
# What holds on several workers while nobody holds the lock

However the moments of the calls overlap, the parts of a manager that no call holds agree on
whether it is registered, and a registration has a refresh to come. The flag of a deferred
un-REGISTER is guarded by another lock. An attempt that failed clears it in the first half of its
end and tells so by the state in the second, and a caller who looks at the state in between
defers his un-REGISTER to an attempt that will not see to it. It is told here exactly when the flag
is left behind. Where one event comes after another, as in `Manager.atRest_after`, it never is.
-/

namespace ImsClient.Registration

namespace Workers

open Manager

/-! ### What is left behind -/

/-- A call looks at the state between the two halves of the end of an attempt to register. -/
def AsksAtEnd (w : Workers) (call : CallId) : Prop :=
  (∃ deferred, ⟨call, deferred⟩ ∈ w.asking) ∧
    (∃ other, w.manager.exchange = some ⟨other, .register⟩) ∧ w.stage.isFailing = true

/-- The calls with which an end is put to what was deferred before: one that begins an exchange, or
one that comes back from the notice that it registered. -/
def renewals (w : Workers) (_ : Instant) : Moment → List CallId
  | .granted =>
    match w.manager.exchange, w.manager.waiting with
    | none, first :: _ =>
      match w.manager.work? first.errand with
      | some (.exchange _) => [first.call]
      | _ => []
    | _, _ => []
  | .returned call =>
    match w.manager.callbacks.find? (·.call = call) with
    | some ⟨_, .performDeferred⟩ => [call]
    | _ => []
  | _ => []

/-- Along a run an un-REGISTER is left behind: it was asked for between the two halves of the end
of an attempt to register, and since then no exchange began and no call came back from the notice
that it registered. -/
def LeavesBehind (w : Workers) (schedule : Schedule) : Prop :=
  ∃ before now call rest, schedule = before ++ (now, .asked call) :: rest ∧
    (w.after before).AsksAtEnd call ∧
    (w.after (before ++ [(now, .asked call)])).along renewals rest = []

/-- The calls that the refresh timer begins with a moment. -/
def firings (w : Workers) (now : Instant) : Moment → List CallId
  | .fired call => if w.manager.timer.isDue now.wholeMilliseconds.toNat then [call] else []
  | _ => []

/-- What is left behind after one more moment: what the moment leaves behind, or what was left
behind before unless the moment puts an end to it. -/
theorem leavesBehind_concat (w : Workers) (schedule : Schedule) (now : Instant) (moment : Moment) :
    w.LeavesBehind (schedule ++ [(now, moment)]) ↔
      (∃ call, moment = .asked call ∧ (w.after schedule).AsksAtEnd call) ∨
        (w.LeavesBehind schedule ∧ (w.after schedule).renewals now moment = []) := by
  constructor
  · rintro ⟨before, then', call, rest, hsplit, hasks, hrest⟩
    rcases split_concat hsplit with ⟨rfl, rfl, hsame⟩ | ⟨since, rfl, rfl⟩
    · cases hsame
      exact .inl ⟨call, rfl, hasks⟩
    · rw [along_concat, List.append_eq_nil_iff, ← after_append, List.append_assoc,
        List.singleton_append] at hrest
      exact .inr ⟨⟨before, then', call, since, rfl, hasks, hrest.1⟩, hrest.2⟩
  · rintro (⟨call, rfl, hasks⟩ | ⟨⟨before, then', call, since, rfl, hasks, hsince⟩, hmoment⟩)
    · exact ⟨schedule, now, call, [], rfl, hasks, rfl⟩
    · refine ⟨before, then', call, since ++ [(now, moment)], by simp, hasks, ?_⟩
      rw [along_concat, List.append_eq_nil_iff, ← after_append, List.append_assoc,
        List.singleton_append]
      exact ⟨hsince, hmoment⟩

/-! ### How the workers stand -/

/-- A refresh that the timer began has not had its turn. -/
def RefreshToCome (fired : CallId → Prop) (w : Workers) : Prop :=
  ∃ call, fired call ∧ ⟨call, .refresh⟩ ∈ w.manager.waiting ++ w.joining

/-- A call will see to a deferred un-REGISTER: the one whose attempt to register has not failed, or
one that has yet to come back from the notice that it registered. -/
def SeenTo (w : Workers) : Prop :=
  (∃ call, w.manager.exchange = some ⟨call, .register⟩ ∧ w.stage.isFailing = false) ∨
    ∃ callback ∈ w.manager.callbacks, callback.afterwards = .performDeferred

variable {fired : CallId → Prop} {left : Prop} {m n : Manager} {w : Workers}

/-- How the workers stand at any time, where the proposition tells that an un-REGISTER is left
behind. -/
structure Standing (fired : CallId → Prop) (left : Prop) (w : Workers) : Prop where
  atRest : w.manager.exchange = none → w.manager.AtRest (w.RefreshToCome fired)
  state : ∀ exchange, w.manager.exchange = some exchange →
    w.manager.state = exchange.purpose.state
  underWay : ∀ exchange, w.manager.exchange = some exchange → w.stage.isFailing = false →
    w.manager.UnderWay exchange
  failing : ∀ exchange, w.manager.exchange = some exchange → w.stage.isFailing = true →
    w.manager.registered = false
  deferred : w.manager.deferred = true → left ∨ w.SeenTo
  left : left → w.manager.deferred = true ∧ w.manager.registered = false ∧
    (w.manager.exchange = none ∨ w.stage.isFailing = true)

/-- More calls that the timer began do no harm. -/
theorem Standing.mono {fired' : CallId → Prop} (hw : w.Standing fired left)
    (hfired : ∀ call, fired call → fired' call) : w.Standing fired' left where
  atRest hfree := (hw.atRest hfree).mono (Exists.imp fun call => And.imp_left (hfired call))
  state := hw.state
  underWay := hw.underWay
  failing := hw.failing
  deferred := hw.deferred
  left := hw.left

/-- While nobody holds the lock there is nothing to be said of an exchange. -/
theorem standing_of_free (hfree : w.manager.exchange = none)
    (hrest : w.manager.AtRest (w.RefreshToCome fired))
    (hdeferred : w.manager.deferred = true → left ∨ w.SeenTo)
    (hleft : left → w.manager.deferred = true ∧ w.manager.registered = false) :
    w.Standing fired left where
  atRest _ := hrest
  state _ hexchange := by cases hfree.symm.trans hexchange
  underWay _ hexchange := by cases hfree.symm.trans hexchange
  failing _ hexchange := by cases hfree.symm.trans hexchange
  deferred := hdeferred
  left h := ⟨(hleft h).1, (hleft h).2, .inl hfree⟩

/-- While an exchange goes well, a deferred un-REGISTER is to be seen to. -/
theorem standing_of_underWay {exchange : Exchange} (hexchange : w.manager.exchange = some exchange)
    (hstage : w.stage.isFailing = false) (hunderWay : w.manager.UnderWay exchange)
    (hdeferred : w.manager.deferred = true → w.SeenTo) (hleft : ¬ left) :
    w.Standing fired left where
  atRest hfree := by cases hfree.symm.trans hexchange
  state other hother := by
    obtain rfl : exchange = other := Option.some.inj (hexchange.symm.trans hother)
    exact hunderWay.state
  underWay other hother _ := by
    obtain rfl : exchange = other := Option.some.inj (hexchange.symm.trans hother)
    exact hunderWay
  failing _ _ hfailing := by cases hstage.symm.trans hfailing
  deferred h := .inr (hdeferred h)
  left h := (hleft h).elim

/-- Between the two halves of the end of an exchange that failed, the registration is gone, but the
state does not tell so yet. -/
theorem standing_of_failing {exchange : Exchange} (hexchange : w.manager.exchange = some exchange)
    (hstage : w.stage.isFailing = true) (hstate : w.manager.state = exchange.purpose.state)
    (hgone : w.manager.registered = false)
    (hdeferred : w.manager.deferred = true → left ∨ w.SeenTo)
    (hleft : left → w.manager.deferred = true) : w.Standing fired left where
  atRest hfree := by cases hfree.symm.trans hexchange
  state other hother := by
    obtain rfl : exchange = other := Option.some.inj (hexchange.symm.trans hother)
    exact hstate
  underWay _ _ hgoes := by cases hstage.symm.trans hgoes
  failing _ _ _ := hgone
  deferred := hdeferred
  left h := ⟨hleft h, hgone, .inr hstage⟩

/-- Nothing is left behind while an exchange goes well. -/
theorem Standing.not_left (hw : w.Standing fired left) {exchange : Exchange}
    (hexchange : w.manager.exchange = some exchange) (hstage : w.stage.isFailing = false) :
    ¬ left := by
  intro hleft
  rcases (hw.left hleft).2.2 with hfree | hfailing
  · cases hfree.symm.trans hexchange
  · cases hstage.symm.trans hfailing

/-- Without an attempt to register that goes well, a deferred un-REGISTER is left behind or seen to
by a call that has yet to come back, also when one more call tells the listener something. -/
theorem Standing.told (hw : w.Standing fired left) (hdeferred : w.manager.deferred = true)
    (hnone : ∀ call, w.manager.exchange = some ⟨call, .register⟩ → w.stage.isFailing = true)
    (callback : Callback) :
    left ∨ ∃ other ∈ w.manager.callbacks ++ [callback], other.afterwards = .performDeferred := by
  rcases hw.deferred hdeferred with hleft | ⟨call, hcall, hgoes⟩ | ⟨other, hother, hreturns⟩
  · exact .inl hleft
  · cases hgoes.symm.trans (hnone call hcall)
  · exact .inr ⟨other, List.mem_append_left _ hother, hreturns⟩

/-- A manager that is new stands well with no call on its way to it. -/
theorem standing_alone (hm : m.IsNew) (fired : CallId → Prop) :
    (alone m).Standing fired False := by
  have hrest := hm.atRest ((alone m).RefreshToCome fired)
  obtain ⟨settings, bound, procedure, rfl⟩ := hm
  exact standing_of_free rfl hrest (fun hdeferred => nomatch hdeferred) False.elim

/-- Calls on their way to the manager leave everything as it is, if no refresh is lost among them
and those in line. -/
theorem Standing.moves (hw : w.Standing fired left) (waiting : List Waiter) (asking : List Asker)
    (joining : List Waiter)
    (hkept : ∀ waiter ∈ w.manager.waiting ++ w.joining, waiter ∈ waiting ++ joining) :
    Standing fired left
      { w with manager := { w.manager with waiting }, asking, joining } where
  atRest hfree :=
    { (hw.atRest hfree).mono (Exists.imp fun _ => And.imp_right (hkept _)) with }
  state := hw.state
  underWay exchange hexchange hstage := { hw.underWay exchange hexchange hstage with }
  failing := hw.failing
  deferred := hw.deferred
  left := hw.left

/-- A call that looks at the state is deferred to a REGISTER that is under way, or it is left behind
at the end of one, or it goes on to the line. -/
theorem Standing.ask (hw : w.Standing fired left) {asker : Asker} (hasker : asker ∈ w.asking) :
    (w.ask asker).Standing fired (w.AsksAtEnd asker.call ∨ left) := by
  unfold Workers.ask
  split
  next hstate =>
    obtain ⟨other, hexchange⟩ := exchange_of_registering hw.atRest hw.state hstate
    cases hstage : w.stage.isFailing with
    | true =>
      exact standing_of_failing hexchange hstage (hw.state _ hexchange)
        (hw.failing _ hexchange hstage)
        (fun _ => .inl (.inl ⟨⟨_, hasker⟩, ⟨other, hexchange⟩, hstage⟩)) fun _ => rfl
    | false =>
      refine standing_of_underWay hexchange hstage { hw.underWay _ hexchange hstage with }
        (fun _ => .inl ⟨other, hexchange, hstage⟩) ?_
      rintro (⟨_, _, hfailing⟩ | hleft)
      · cases hstage.symm.trans hfailing
      · exact hw.not_left hexchange hstage hleft
  next hstate =>
    have hother : ¬ w.AsksAtEnd asker.call := by
      rintro ⟨_, ⟨other, hexchange⟩, _⟩
      exact hstate (hw.state _ hexchange)
    simp only [hother, false_or]
    exact hw.moves w.manager.waiting _ _ (by simp +contextual [or_imp])

/-- What an exchange learns does not change how the workers stand, with its request sent. -/
theorem Standing.learns (hw : w.Standing fired left) {exchange : Exchange}
    (hexchange : w.manager.exchange = some exchange) (hstage : w.stage.isFailing = false)
    (hlearns : w.manager.Learns n) :
    Standing fired left { w with manager := n, stage := .awaiting } := by
  have hnot := hw.not_left hexchange hstage
  refine standing_of_underWay (hlearns.exchange.trans hexchange) rfl
    ((hw.underWay _ hexchange hstage).learns hlearns) (fun hdeferred => ?_) hnot
  rcases hw.deferred (hlearns.deferred ▸ hdeferred) with hleft | ⟨call, hcall, _⟩ | hreturns
  · exact (hnot hleft).elim
  · exact .inl ⟨call, hlearns.exchange.trans hcall, rfl⟩
  · exact .inr (hlearns.callbacks ▸ hreturns)

/-- The first half of the end of an exchange that failed leaves nothing to be seen to. -/
theorem Standing.giveUp (hw : w.Standing fired left) {exchange : Exchange}
    (hexchange : w.manager.exchange = some exchange) (hstage : w.stage.isFailing = false)
    (hlearns : w.manager.Learns n) (error : Error) : (w.giveUp n error).Standing fired left :=
  standing_of_failing (hlearns.exchange.trans hexchange) rfl
    (hlearns.state.trans (hw.state _ hexchange)) rfl (fun hdeferred => nomatch hdeferred)
    fun hleft => (hw.not_left hexchange hstage hleft).elim

/-- The next request of an exchange is sent, or the exchange begins to end. -/
theorem Standing.send (hw : w.Standing fired left) {exchange : Exchange}
    (hexchange : w.manager.exchange = some exchange) (hstage : w.stage.isFailing = false)
    (hlearns : w.manager.Learns n) : (w.send n exchange.purpose).Standing fired left := by
  have hcomposed := hlearns.trans (n.compose_learns exchange.purpose)
  unfold Workers.send
  rcases hcompose : n.compose exchange.purpose with ⟨composed, o⟩
  rw [hcompose] at hcomposed
  cases composed with
  | ok request => exact hw.learns hexchange hstage hcomposed
  | error error => exact hw.giveUp hexchange hstage hcomposed error

/-- A 200 leaves the manager at rest, and a deferred un-REGISTER to be seen to. -/
theorem Standing.succeed (hw : w.Standing fired left) {exchange : Exchange} (now : Instant)
    (response : Sip.Response) (hexchange : w.manager.exchange = some exchange)
    (hstage : w.stage.isFailing = false) :
    Standing fired left
      { w with
        manager := ((if exchange.purpose.isUnregister then w.manager.takeRelease
          else w.manager.takeGrant now response).succeed exchange.call exchange.purpose).1 } := by
  have hnot := hw.not_left hexchange hstage
  have hdialog := (hw.underWay _ hexchange hstage).dialog
  obtain ⟨call, purpose⟩ := exchange
  cases purpose with
  | register =>
    refine standing_of_free rfl (takeGrant_atRest _ now response call hdialog)
      (fun _ => .inr (.inr ⟨⟨call, .performDeferred⟩, ?_, rfl⟩)) fun hleft => (hnot hleft).elim
    simp [takeGrant, Manager.succeed, Manager.tell]
  | unregister deferred =>
    refine standing_of_free rfl (release_atRest _ _ call .terminated _) (fun hdeferred => ?_)
      fun hleft => (hnot hleft).elim
    refine (hw.told hdeferred (fun other hother => ?_) _).imp_right .inr
    cases hexchange.symm.trans hother

/-- A reply is answered by the next request, or the exchange begins to end, or a 200 ends it
well. -/
theorem Standing.receive (hw : w.Standing fired left) {exchange : Exchange} (now : Instant)
    (reply : Reply) (hexchange : w.manager.exchange = some exchange)
    (hstage : w.stage.isFailing = false) : (w.receive now exchange reply).Standing fired left := by
  by_cases hgood : ∃ response, reply = .response response ∧ response.status = 200
  · obtain ⟨response, rfl, hstatus⟩ := hgood
    simpa only [Workers.receive, judgeReply, judge, hstatus] using
      hw.succeed now response hexchange hstage
  · have hother : ∀ response, reply = .response response → response.status ≠ 200 :=
      fun response hresponse hstatus => hgood ⟨response, hresponse, hstatus⟩
    obtain ⟨hlearns, hdone⟩ := w.manager.judgeReply_learns now exchange.purpose hother
    unfold Workers.receive
    rcases hjudge : w.manager.judgeReply now exchange.purpose reply with ⟨n, verdict⟩
    rw [hjudge] at hlearns hdone
    cases verdict with
    | done => exact absurd rfl hdone
    | fail error => exact hw.giveUp hexchange hstage hlearns error
    | resend => exact hw.send hexchange hstage (hlearns.trans n.learns_advance)

/-- The second half of the end of an exchange that failed leaves the manager at rest. Whoever looked
at the state before it is left behind. -/
theorem Standing.settle (hw : w.Standing fired left) {call : CallId} {purpose : Purpose}
    (error : Error) (hexchange : w.manager.exchange = some ⟨call, purpose⟩)
    (hstage : w.stage.isFailing = true) :
    Standing fired left
      { w with manager := (w.manager.settle call purpose error).1, stage := .awaiting } := by
  have hgone := hw.failing _ hexchange hstage
  exact standing_of_free rfl (settle_atRest _ call purpose error hgone)
    (fun hdeferred => (hw.told hdeferred (fun _ _ => hstage) _).imp_right .inr)
    fun hleft => ⟨(hw.left hleft).1, hgone⟩

/-- The first in line takes the lock. With an exchange that begins, nothing is left behind any
more. -/
theorem Standing.grant (hw : w.Standing fired left) {first : Waiter} {rest : List Waiter}
    (hfree : w.manager.exchange = none) (hline : w.manager.waiting = first :: rest)
    (now : Instant) :
    ({ w with manager := { w.manager with waiting := rest } }.grant first).Standing fired
      (left ∧ w.renewals now .granted = []) := by
  have hrest := hw.atRest hfree
  have hsame : { w.manager with waiting := rest }.work? first.errand =
      w.manager.work? first.errand := rfl
  unfold Workers.grant
  rw [hsame]
  cases hwork : w.manager.work? first.errand with
  | some work =>
    cases work with
    | exchange purpose =>
      have hpurpose (hunregister : purpose.isUnregister = true) :=
        registered_of_work hwork hunregister
      have hprepared := prepare_prepared { w.manager with waiting := rest } purpose
      have hunderWay := hprepared.underWay first.call fun hunregister =>
        ⟨hpurpose hunregister, hrest.registered_iff_dialog.mp (hpurpose hunregister)⟩
      refine standing_of_underWay rfl rfl { hunderWay with } (fun hdeferred => ?_) ?_
      · have hbefore : w.manager.deferred = true := hprepared.deferred ▸ hdeferred
        rcases hw.deferred hbefore with hleft | ⟨call, hcall, _⟩ | hreturns
        -- What is left behind is left without a registration, and there is none to take back.
        · cases purpose with
          | register => exact .inl ⟨first.call, rfl, rfl⟩
          | unregister => simpa [(hw.left hleft).2.1] using hpurpose rfl
        · cases hfree.symm.trans hcall
        · exact .inr (hprepared.callbacks ▸ hreturns)
      · simp [renewals, hfree, hline, hwork]
    | stop thenRegister =>
      have hregistered := registered_of_stop hwork
      have hnot : ¬ left := fun hleft => by cases hregistered.symm.trans (hw.left hleft).2.1
      refine standing_of_free rfl (release_atRest _ _ first.call .terminated _)
        (fun hdeferred => .inr (.inr ?_)) fun hleft => (hnot hleft.1).elim
      refine (hw.told hdeferred (fun call hcall => ?_) _).resolve_left hnot
      cases hfree.symm.trans hcall
  | none =>
    have hkept : w.renewals now .granted = [] := by simp [renewals, hfree, hline, hwork]
    simp only [hkept, and_true]
    refine ⟨fun _ => { hrest with refresh := fun hregistered => ?_ }, hw.state,
      fun exchange h hstage => { hw.underWay exchange h hstage with }, hw.failing, hw.deferred,
      hw.left⟩
    rcases hrest.refresh hregistered with hpending | ⟨call, hcall, hcomes⟩
    · exact .inl hpending
    · refine .inr ⟨call, hcall, ?_⟩
      rw [hline, List.cons_append] at hcomes
      rcases List.mem_cons.mp hcomes with rfl | hcomes
      -- A refresh is declined only without a registration.
      · cases hwork.symm.trans (hrest.work_refresh hregistered)
      · rcases List.mem_append.mp hcomes with hwaits | hjoins
        · exact List.mem_append_left _ hwaits
        · exact List.mem_append_right _ (List.mem_append_left _ hjoins)

/-- A call that comes back from any other notice than that it registered sees to nothing that was
deferred. -/
theorem Standing.returns (hw : w.Standing fired left) (callback : Callback)
    (hother : callback.afterwards ≠ .performDeferred) :
    Standing fired left
      { w with
        manager := { w.manager with callbacks := w.manager.callbacks.erase callback } } where
  atRest hfree := { hw.atRest hfree with }
  state := hw.state
  underWay exchange hexchange hstage := { hw.underWay exchange hexchange hstage with }
  failing := hw.failing
  deferred hdeferred := by
    rcases hw.deferred hdeferred with hleft | hgoes | ⟨other, hmem, hreturns⟩
    · exact .inl hleft
    · exact .inr (.inl hgoes)
    · have hne : other ≠ callback := by
        rintro rfl
        exact hother hreturns
      exact .inr (.inr ⟨other, (List.mem_erase_of_ne hne).mpr hmem, hreturns⟩)
  left := hw.left

/-- A call that comes back from the notice that it registered takes the flag. -/
theorem Standing.resume (hw : w.Standing fired left) (callback : Callback) :
    (w.resume callback).Standing fired (left ∧ callback.afterwards ≠ .performDeferred) := by
  obtain ⟨call, afterwards⟩ := callback
  cases afterwards with
  | performDeferred =>
    have hcleared (asking : List Asker) : Standing fired False
        { w with
          manager := { w.manager with
            callbacks := w.manager.callbacks.erase ⟨call, .performDeferred⟩, deferred := false }
          asking } :=
      ⟨fun hfree => { hw.atRest hfree with }, hw.state,
        fun exchange h hstage => { hw.underWay exchange h hstage with }, hw.failing,
        fun h => (Bool.false_ne_true h).elim, False.elim⟩
    simp only [ne_eq, not_true_eq_false, and_false]
    cases hflag : w.manager.deferred with
    | true => simpa only [Workers.resume, hflag, if_true] using hcleared _
    | false =>
      simpa only [Workers.resume, hflag, Bool.false_eq_true, if_false] using hcleared w.asking
  | register =>
    have hreturns := hw.returns ⟨call, .register⟩ (by simp)
    simpa [Workers.resume] using
      hreturns.moves w.manager.waiting w.asking (w.joining ++ [⟨call, .register⟩])
        (by simp +contextual [or_imp])
  | answerFailed | answerRegistered | done =>
    simpa [Workers.resume] using hw.returns ⟨call, _⟩ (by simp)

/-- The refresh timer begins a call. -/
theorem Standing.fire (hw : w.Standing fired left) {call : CallId} (hcall : fired call) :
    Standing fired left
      { w with
        manager := { w.manager with timer := w.manager.timer.stop }
        joining := w.joining ++ [⟨call, .refresh⟩] } where
  atRest hfree :=
    { hw.atRest hfree with
      registered_of_timer := fun h => by cases h
      refresh := fun _ => .inr ⟨call, hcall, by simp⟩ }
  state := hw.state
  underWay exchange hexchange hstage := { hw.underWay exchange hexchange hstage with }
  failing := hw.failing
  deferred := hw.deferred
  left := hw.left

/-- A moment leaves the workers standing well. What is left behind after it is what it leaves
behind, or what was left behind before unless it puts an end to that. -/
theorem Standing.step (hw : w.Standing fired left) (now : Instant) (moment : Moment)
    (hfired : ∀ call ∈ w.firings now moment, fired call) :
    (w.step now moment).Standing fired
      ((∃ call, moment = .asked call ∧ w.AsksAtEnd call) ∨
        (left ∧ w.renewals now moment = [])) := by
  cases moment <;>
    simp only [Moment.asked.injEq, exists_eq_left', reduceCtorEq, false_and, exists_false, false_or]
  case asked call =>
    simp only [renewals, and_true, Workers.step]
    cases hfind : w.asking.find? (·.call = call) with
    | none =>
      have hnobody : ¬ w.AsksAtEnd call := by
        rintro ⟨⟨deferred, hasks⟩, _⟩
        simpa using List.find?_eq_none.mp hfind _ hasks
      simpa [hnobody] using hw
    | some asker =>
      obtain rfl : asker.call = call := by simpa using List.find?_some hfind
      exact hw.ask (List.mem_of_find?_eq_some hfind)
  case granted =>
    cases hexchange : w.manager.exchange with
    | some exchange => simpa [Workers.step, renewals, hexchange] using hw
    | none =>
      cases hline : w.manager.waiting with
      | nil => simpa [Workers.step, renewals, hexchange, hline] using hw
      | cons first rest =>
        simpa only [Workers.step, hexchange, hline] using hw.grant hexchange hline now
  case returned call =>
    cases hfind : w.manager.callbacks.find? (·.call = call) with
    | none => simpa [Workers.step, renewals, hfind] using hw
    | some callback =>
      have hresume := hw.resume callback
      obtain ⟨_, afterwards⟩ := callback
      cases afterwards <;> simpa [Workers.step, renewals, hfind] using hresume
  all_goals simp only [renewals, and_true]
  case begun call what =>
    simp only [Workers.step, begin]
    split <;> exact hw.moves w.manager.waiting _ _ (by simp +contextual [or_imp])
  case joined call =>
    simp only [Workers.step]
    cases hfind : w.joining.find? (·.call = call) with
    | none => exact hw
    | some waiter =>
      refine hw.moves (w.manager.waiting ++ [waiter]) w.asking _ fun other hother => ?_
      rcases List.mem_append.mp hother with hwaits | hjoins
      · exact List.mem_append_left _ (List.mem_append_left _ hwaits)
      · by_cases hsame : other = waiter
        · exact List.mem_append_left _ (by simp [hsame])
        · exact List.mem_append_right _ ((List.mem_erase_of_ne hsame).mpr hjoins)
  case composed =>
    simp only [Workers.step]
    split
    next exchange hexchange hstage =>
      exact hw.send hexchange (by rw [hstage]; rfl) (.refl _)
    next => exact hw
  case replied reply =>
    simp only [Workers.step]
    split
    next exchange hexchange hstage =>
      exact hw.receive now reply hexchange (by rw [hstage]; rfl)
    next => exact hw
  case settled =>
    simp only [Workers.step]
    split
    next call purpose error hexchange hstage =>
      exact hw.settle error hexchange (by rw [hstage]; rfl)
    next => exact hw
  case fired call =>
    simp only [Workers.step]
    split
    next hdue => exact hw.fire (hfired call (by simp [firings, hdue]))
    next => exact hw

/-- The workers stand well after every run from a manager that is new. -/
theorem standing_after (hm : m.IsNew) (schedule : Schedule) :
    ((alone m).after schedule).Standing (fun call => call ∈ (alone m).along firings schedule)
      ((alone m).LeavesBehind schedule) := by
  refine Run.after_induction (p := fun schedule w => w.Standing
    (fun call => call ∈ (alone m).along firings schedule) ((alone m).LeavesBehind schedule))
    (alone m) ?_ ?_ schedule
  · have hnothing : ¬ (alone m).LeavesBehind [] := by
      rintro ⟨before, now, call, rest, hsplit, _⟩
      simp at hsplit
    simpa only [hnothing] using standing_alone hm _
  · rintro schedule ⟨now, moment⟩ hstanding
    have hfirings := along_concat firings (alone m) schedule now moment
    simp only [leavesBehind_concat, hfirings]
    exact (hstanding.mono fun call => List.mem_append_left _).step now moment fun call =>
      List.mem_append_right _

/-- **What holds whenever nobody holds the lock.** After every run on several workers, if no call
holds the lock, the manager is unregistered, registered or failed; the flag, the state and the
dialog agree on which; the refresh timer runs only for a registration; and a registration has a
refresh to come, by the timer or by a call that the timer began and that has not had its turn. If
besides no call is in progress, an un-REGISTER is left to be done exactly if the run leaves one
behind: it was asked for between the two halves of the end of an attempt to register, and nothing
has put an end to it since. -/
theorem atRest_whenever_free (hm : m.IsNew) (schedule : Schedule)
    (hfree : ((alone m).after schedule).manager.exchange = none) :
    ((alone m).after schedule).manager.AtRest
        (∃ call ∈ (alone m).along firings schedule,
          ⟨call, .refresh⟩ ∈ ((alone m).after schedule).manager.waiting ++
            ((alone m).after schedule).joining) ∧
      (((alone m).after schedule).inProgress = [] →
        (((alone m).after schedule).manager.deferred = true ↔
          (alone m).LeavesBehind schedule)) := by
  have hstanding := standing_after hm schedule
  refine ⟨hstanding.atRest hfree, fun hnone => ⟨fun hdeferred => ?_, fun hleft => ?_⟩⟩
  · rcases hstanding.deferred hdeferred with hleft | ⟨call, hexchange, _⟩ | ⟨callback, hmem, _⟩
    · exact hleft
    · cases hfree.symm.trans hexchange
    · simp only [inProgress, Manager.inProgress, List.append_eq_nil_iff,
        List.map_eq_nil_iff] at hnone
      rw [hnone.2.2.2.2] at hmem
      cases hmem
  · exact (hstanding.left hleft).1

/-- An example: the refresh timer fires an hour after a registration was granted, and its call has
yet to get in line. -/
def sampleFired : Schedule :=
  [(0, .begun 0 .register), (0, .joined 0), (0, .granted), (0, .composed), (0, .replied .accepted),
    (0, .returned 0), (4_000_000_000_000, .fired 1)]

/-- In the example nobody holds the lock and no timer is pending; but the refresh is to come. -/
theorem refresh_to_come_in_sample :
    ((alone sample).after sampleFired).manager.exchange = none ∧
      ((alone sample).after sampleFired).manager.timer.isPending = false ∧
      ∃ call ∈ (alone sample).along firings sampleFired,
        ⟨call, .refresh⟩ ∈ ((alone sample).after sampleFired).manager.waiting ++
          ((alone sample).after sampleFired).joining := by
  have hfree : ((alone sample).after sampleFired).manager.exchange = none := by decide +kernel
  have hpending : ((alone sample).after sampleFired).manager.timer.isPending = false := by
    decide +kernel
  have hregistered : ((alone sample).after sampleFired).manager.registered = true := by
    decide +kernel
  have hrest := (atRest_whenever_free sample_isNew sampleFired hfree).1
  refine ⟨hfree, hpending, (hrest.refresh hregistered).resolve_left ?_⟩
  rw [hpending]
  exact Bool.false_ne_true

/-- An example: the attempt of call 0 to register is refused, and call 1, which is to un-REGISTER,
looks at the state between the two halves of the end of that attempt. -/
def sampleOverlap : Schedule :=
  [(0, .begun 0 .register), (0, .joined 0), (0, .granted), (0, .composed),
    (0, .begun 1 .unregister), (0, .replied (.response { status := 403 })), (0, .asked 1),
    (0, .settled), (0, .returned 0)]

/-- In the example both calls have ended and nobody holds the lock, but the un-REGISTER is left to
be done. -/
theorem unregister_left_behind_in_sample :
    ((alone sample).after sampleOverlap).manager.exchange = none ∧
      ((alone sample).after sampleOverlap).inProgress = [] ∧
      ((alone sample).after sampleOverlap).manager.state = .failed ∧
      ((alone sample).after sampleOverlap).manager.deferred = true := by
  decide +kernel

/-- A registration that is granted after it is taken back by the call that it was for. -/
example :
    ((alone sample).after (sampleOverlap ++ [(0, .begun 2 .register), (0, .joined 2), (0, .granted),
      (0, .composed), (0, .replied .accepted), (0, .returned 2)])).asking = [⟨2, true⟩] := by
  decide +kernel

end Workers

end ImsClient.Registration
