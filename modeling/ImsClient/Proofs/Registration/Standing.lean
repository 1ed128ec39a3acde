import ImsClient.Proofs.Registration.Line

/-!
# How a manager stands

While no exchange is under way, the parts of a manager agree on whether it is
registered, and a registered manager has a refresh to come. While an exchange is
under way, its state says which one. An un-REGISTER is left waiting only for a
REGISTER under way, or for the listener to return from the notice of its success.
-/

namespace ImsClient.Registration

namespace Manager

/-- How a manager stands while no call holds the lock. The proposition tells that the refresh timer
began a call which has not had its turn. -/
structure AtRest (toCome : Prop) (m : Manager) : Prop where
  state : m.state = .unregistered ∨ m.state = .registered ∨ m.state = .failed
  registered_iff_state : m.registered = true ↔ m.state = .registered
  registered_iff_dialog : m.registered = true ↔ m.dialog.isSome = true
  registered_of_timer : m.timer.isPending = true → m.registered = true
  refresh : m.registered = true → m.timer.isPending = true ∨ toCome

/-- How a manager stands while a call holds the lock for an exchange. -/
structure UnderWay (m : Manager) (exchange : Exchange) : Prop where
  state : m.state = exchange.purpose.state
  dialog : m.dialog.isSome = true
  registered : exchange.purpose.isUnregister = true → m.registered = true

/-- How a manager stands at any time. The predicate tells the calls that the refresh timer began. -/
structure Standing (fired : CallId → Prop) (m : Manager) : Prop where
  atRest : m.exchange = none → m.AtRest (∃ call, fired call ∧ ⟨call, .refresh⟩ ∈ m.waiting)
  underWay : ∀ exchange, m.exchange = some exchange → m.UnderWay exchange
  deferred : m.deferred = true → (∃ call, m.exchange = some ⟨call, .register⟩) ∨
    ∃ callback ∈ m.callbacks, callback.afterwards = .performDeferred

/-- A timer that was stopped is not pending. -/
@[simp] theorem isPending_stop (timer : Timer) : timer.stop.isPending = false := rfl

/-- A refresh that is planned is pending. -/
@[simp] theorem isPending_armRefresh (now : Instant) (expiry : Nat) (timer : Timer) :
    (armRefresh now expiry timer).isPending = true := by
  unfold armRefresh
  split <;> rfl

/-- A manager is at rest at first. -/
theorem IsNew.atRest {m : Manager} (hm : m.IsNew) (toCome : Prop) : m.AtRest toCome := by
  obtain ⟨settings, bound, procedure, rfl⟩ := hm
  refine ⟨.inl rfl, ?_, ?_, ?_, ?_⟩ <;> simp [create, Timer.isPending]

/-- A manager stands well at first. -/
theorem IsNew.standing {m : Manager} (hm : m.IsNew) (fired : CallId → Prop) : m.Standing fired := by
  refine ⟨fun _ => hm.atRest _, fun exchange hexchange => ?_, fun hdeferred => ?_⟩
  all_goals obtain ⟨settings, bound, procedure, rfl⟩ := hm
  · cases hexchange
  · cases hdeferred

variable {fired fired' : CallId → Prop} {toCome toCome' : Prop} {m n : Manager}

/-- What is to come may be told in another way. -/
theorem AtRest.mono (hm : m.AtRest toCome) (hcome : toCome → toCome') : m.AtRest toCome' :=
  { hm with refresh := fun hregistered => (hm.refresh hregistered).imp_right hcome }

/-- A refresh does not come to nothing with a registration. -/
theorem AtRest.work_refresh (hm : m.AtRest toCome) (hregistered : m.registered = true) :
    m.work? .refresh = some (.exchange .register) := by
  have hdialog := hm.registered_iff_dialog.mp hregistered
  simp only [work?, hregistered, hdialog, Bool.and_self, if_true]

/-- More calls that the timer began do no harm. -/
theorem Standing.mono (hm : m.Standing fired) (hfired : ∀ call, fired call → fired' call) :
    m.Standing fired' where
  atRest hfree := 
    (hm.atRest hfree).mono (Exists.imp fun call => And.imp_left (hfired call))
  underWay := hm.underWay
  deferred := hm.deferred

/-- A REGISTER is under way if the state says so, for a manager that is at rest without an exchange
and whose state tells which exchange is under way otherwise. -/
theorem exchange_of_registering (hrest : m.exchange = none → m.AtRest toCome)
    (hunderWay : ∀ exchange, m.exchange = some exchange → m.state = exchange.purpose.state)
    (hstate : m.state = .registering) : ∃ call, m.exchange = some ⟨call, .register⟩ := by
  cases hexchange : m.exchange with
  | none => simpa [hstate] using (hrest hexchange).state
  | some exchange =>
    obtain ⟨call, purpose⟩ := exchange
    have hpurpose := hunderWay _ hexchange
    cases purpose with
    | register => exact ⟨call, rfl⟩
    | unregister => simp [hstate, Purpose.state] at hpurpose

/-- A REGISTER is under way if the state says so. -/
theorem Standing.exchange_of_registering (hm : m.Standing fired) (hstate : m.state = .registering) :
    ∃ call, m.exchange = some ⟨call, .register⟩ :=
  Manager.exchange_of_registering hm.atRest
    (fun exchange hexchange => (hm.underWay exchange hexchange).state) hstate

/-- What an exchange learns does not change how the manager stands with the exchange under way. -/
theorem UnderWay.learns {exchange : Exchange} (hm : m.UnderWay exchange) (hlearns : m.Learns n) :
    n.UnderWay exchange where
  state := hlearns.state.trans hm.state
  dialog := hlearns.dialog.trans hm.dialog
  registered hpurpose := hlearns.registered.trans (hm.registered hpurpose)

/-- An exchange that is prepared, and finds a registration to take back if that is what it is for,
has the state say so. -/
theorem Prepared.underWay {purpose : Purpose} (hprepared : m.Prepared n purpose) (call : CallId)
    (hpurpose : purpose.isUnregister = true → m.registered = true ∧ m.dialog.isSome = true) :
    n.UnderWay ⟨call, purpose⟩ where
  state := hprepared.state
  dialog := by
    rw [hprepared.dialog]
    cases hunregister : purpose.isUnregister with
    | false => rfl
    | true => exact (hpurpose hunregister).2
  registered hunregister := hprepared.registered.trans (hpurpose hunregister).1

/-! ### The end of an attempt -/

/-- The end of an attempt that failed leaves the manager at rest. -/
theorem settle_atRest (toCome : Prop) (call : CallId) (purpose : Purpose) (error : Error)
    (hgone : m.registered = false) : (m.settle call purpose error).1.AtRest toCome := by
  refine ⟨.inr (.inr rfl), ?_, ?_, ?_, ?_⟩ <;> simp [settle, tell, hgone]

/-- A manager that drops its registration is at rest. -/
theorem release_atRest (toCome : Prop) (m : Manager) (call : CallId) (notice : Notice)
    (afterwards : Afterwards) : (m.release.tell call notice afterwards).1.AtRest toCome := by
  refine ⟨.inl rfl, ?_, ?_, ?_, ?_⟩ <;> simp [release, tell]

/-- A 200 to a REGISTER leaves the manager registered, with a refresh to come. -/
theorem takeGrant_atRest (toCome : Prop) (now : Instant) (response : Sip.Response) (call : CallId)
    (hdialog : m.dialog.isSome = true) :
    ((m.takeGrant now response).succeed call .register).1.AtRest toCome := by
  refine ⟨.inr (.inl rfl), ?_, ?_, ?_, ?_⟩ <;> simp [takeGrant, succeed, tell, hdialog]

/-- After a failure the manager stands well, however it stood before. -/
theorem fail_standing (fired : CallId → Prop) (m : Manager) (call : CallId) (purpose : Purpose)
    (error : Error) : (m.fail call purpose error).1.Standing fired where
  atRest _ := settle_atRest _ call purpose error rfl
  underWay exchange hexchange := by cases hexchange
  deferred hdeferred := by cases hdeferred

/-- A manager that drops its registration stands well, if an un-REGISTER waits only for the
listener to return. -/
theorem release_standing (fired : CallId → Prop) (m : Manager) (call : CallId) (notice : Notice)
    (afterwards : Afterwards) (hdeferred : m.deferred = true →
      ∃ callback ∈ m.callbacks, callback.afterwards = .performDeferred) :
    (m.release.tell call notice afterwards).1.Standing fired where
  atRest _ := m.release_atRest _ call notice afterwards
  underWay exchange hexchange := by cases hexchange
  deferred h := by
    obtain ⟨callback, hcallback, hafterwards⟩ := hdeferred h
    exact .inr ⟨callback, List.mem_append_left _ hcallback, hafterwards⟩

/-- After a 200 to a REGISTER the manager stands well. -/
theorem takeGrant_standing (fired : CallId → Prop) (m : Manager) (now : Instant)
    (response : Sip.Response) (call : CallId) (hdialog : m.dialog.isSome = true) :
    ((m.takeGrant now response).succeed call .register).1.Standing fired where
  atRest _ := takeGrant_atRest _ now response call hdialog
  underWay exchange hexchange := by cases hexchange
  deferred _ := .inr ⟨⟨call, .performDeferred⟩, by simp [takeGrant, succeed, tell], rfl⟩

/-! ### Steps -/

/-- A turn comes to an un-REGISTER only with a registration to take back. -/
theorem registered_of_work {errand : Errand} {purpose : Purpose}
    (hwork : m.work? errand = some (.exchange purpose)) (hpurpose : purpose.isUnregister = true) :
    m.registered = true := by
  cases errand <;> simp only [work?, Option.ite_none_right_eq_some, Option.some.injEq,
    Work.exchange.injEq, reduceCtorEq, and_false] at hwork
  case register =>
    subst hwork
    cases hpurpose
  case refresh =>
    obtain ⟨_, rfl⟩ := hwork
    cases hpurpose
  case unregister => exact hwork.1

/-- A turn comes to a stop only with a registration to drop. -/
theorem registered_of_stop {errand : Errand} {thenRegister : Bool}
    (hwork : m.work? errand = some (.stop thenRegister)) : m.registered = true := by
  cases errand <;> simp only [work?, Option.ite_none_right_eq_some, Option.some.injEq,
    reduceCtorEq, and_false] at hwork
  case stop => exact hwork.1

/-- An exchange that starts, and finds a registration to take back if that is what it is for, has
the state say so, or it fails at once. -/
theorem startExchange_standing (fired : CallId → Prop) (call : CallId) (purpose : Purpose)
    (hpurpose : purpose.isUnregister = true → m.registered = true ∧ m.dialog.isSome = true)
    (hdeferred : m.deferred = true →
      ∃ callback ∈ m.callbacks, callback.afterwards = .performDeferred) :
    (m.startExchange call purpose).1.Standing fired := by
  have hprepared := m.prepare_prepared purpose
  rw [startExchange_eq]
  rcases (m.prepare purpose).send_cases call purpose with
    ⟨n, request, hlearns, _, heq⟩ | ⟨n, error, hlearns, _, heq⟩
  · rw [heq]
    refine ⟨fun h => (Option.some_ne_none _ h).elim, ?_, fun h => ?_⟩
    · rintro exchange ⟨⟩
      exact { (hprepared.underWay call hpurpose).learns hlearns with }
    · rw [hlearns.deferred, hprepared.deferred] at h
      obtain ⟨callback, hcallback, hafterwards⟩ := hdeferred h
      refine .inr ⟨callback, ?_, hafterwards⟩
      rwa [hlearns.callbacks, hprepared.callbacks]
  · rw [heq]
    exact fail_standing fired n call purpose error

/-- A reply leaves a manager that stands well standing well. -/
theorem Standing.receive (hm : m.Standing fired) (now : Instant) (reply : Reply) :
    (m.receive now reply).1.Standing fired := by
  cases hexchange : m.exchange with
  | none => rwa [receive_of_no_exchange now reply hexchange]
  | some exchange =>
    have hunderWay := hm.underWay exchange hexchange
    rcases m.receive_cases now reply hexchange with
      ⟨n, request, hlearns, heq⟩ | ⟨n, error, hlearns, heq⟩ | ⟨response, _, _, heq⟩
    · rw [heq]
      have hsame := hlearns.exchange
      refine ⟨fun hfree => ?_, fun exchange' hexchange' => ?_, fun hdeferred => ?_⟩
      · rw [hsame, hexchange] at hfree
        cases hfree
      · rw [hsame, hexchange] at hexchange'
        cases hexchange'
        exact hunderWay.learns hlearns
      · rw [hlearns.deferred] at hdeferred
        rw [hsame, hlearns.callbacks]
        exact hm.deferred hdeferred
    · rw [heq]
      exact fail_standing fired n exchange.call exchange.purpose error
    · rw [heq]
      obtain ⟨call, purpose⟩ := exchange
      cases purpose with
      | register => exact takeGrant_standing fired m now response call hunderWay.dialog
      | unregister deferred =>
        refine release_standing fired m.takeRelease call _ _ fun hdeferred => ?_
        rcases hm.deferred hdeferred with ⟨other, hother⟩ | hwaits
        · rw [hexchange] at hother
          cases hother
        · exact hwaits

end Manager

open Manager

variable {fired : CallId → Prop}

/-- A move leaves a manager that stands well standing well. -/
theorem Move.standing {m n : Manager} {begun : List Origin} {joined : List Waiter}
    {served : List Turn} {effects : List Effect} (hmove : Move m begun joined served n effects)
    (hfired : ∀ call, .timer call ∈ begun → fired call) (hm : m.Standing fired) :
    n.Standing fired := by
  have hlonger {rest : List Waiter} (hfree : m.exchange = none)
      (hregistered : m.registered = true) :
      m.timer.isPending = true ∨ ∃ call, fired call ∧ ⟨call, .refresh⟩ ∈ m.waiting ++ rest := by
    rcases (hm.atRest hfree).refresh hregistered with hpending | ⟨call, hcall, hwaits⟩
    · exact .inl hpending
    · exact .inr ⟨call, hcall, List.mem_append_left rest hwaits⟩
  cases hmove with
  | arrive call errand =>
    exact ⟨fun hfree => { hm.atRest hfree with refresh := hlonger hfree },
      fun exchange hexchange => { hm.underWay exchange hexchange with }, hm.deferred⟩
  | fire call hpending =>
    -- The refresh to come is handed from the timer to the call that it begins.
    refine ⟨fun hfree => ?_, fun exchange hexchange => { hm.underWay exchange hexchange with },
      hm.deferred⟩
    exact { hm.atRest hfree with
      registered_of_timer := fun h => by cases h
      refresh := fun _ => .inr ⟨call, hfired call (by simp), by simp⟩ }
  | defer call answer hstate =>
    exact ⟨fun hfree => { hm.atRest hfree with },
      fun exchange hexchange => { hm.underWay exchange hexchange with },
      fun _ => .inl (hm.exchange_of_registering hstate)⟩
  | conclude callback answer hcallback hdeferred =>
    refine ⟨fun hfree => { hm.atRest hfree with },
      fun exchange hexchange => { hm.underWay exchange hexchange with }, fun hflag => ?_⟩
    by_cases hafterwards : callback.afterwards = .performDeferred
    -- The call that could have redeemed it leaves it to the REGISTER that is under way by now.
    · exact .inl (hm.exchange_of_registering (hdeferred hafterwards hflag))
    · rcases hm.deferred hflag with hexchange | ⟨other, hother, hperform⟩
      · exact .inl hexchange
      · have hne : other ≠ callback := by
          rintro rfl
          exact hafterwards hperform
        exact .inr ⟨other, (List.mem_erase_of_ne hne).mpr hother, hperform⟩
  | redeem callback hcallback hafterwards hflag hstate =>
    exact ⟨fun hfree => { hm.atRest hfree with refresh := hlonger hfree },
      fun exchange hexchange => { hm.underWay exchange hexchange with }, fun h => by cases h⟩
  | proceed callback hcallback hafterwards =>
    refine ⟨fun hfree => { hm.atRest hfree with refresh := hlonger hfree },
      fun exchange hexchange => { hm.underWay exchange hexchange with }, fun hflag => ?_⟩
    rcases hm.deferred hflag with hexchange | ⟨other, hother, hperform⟩
    · exact .inl hexchange
    · have hne : other ≠ callback := by
        rintro rfl
        simp [hafterwards] at hperform
      exact .inr ⟨other, (List.mem_erase_of_ne hne).mpr hother, hperform⟩
  | decline first rest answer hfree hline hwork hfollow =>
    have hrest := hm.atRest hfree
    refine ⟨fun _ => { hrest with refresh := fun hregistered => ?_ }, fun exchange hexchange => ?_,
      hm.deferred⟩
    · rcases hrest.refresh hregistered with hpending | ⟨call, hcall, hwaits⟩
      · exact .inl hpending
      · rw [hline] at hwaits
        rcases List.mem_cons.mp hwaits with rfl | hwaits
        -- A refresh is declined only without a registration.
        · cases hwork.symm.trans (hrest.work_refresh hregistered)
        · exact .inr ⟨call, hcall, hwaits⟩
    · cases hfree.symm.trans hexchange
  | pass first rest hfree hline hwork hfollow =>
    have hgone : m.registered = false := by
      cases hregistered : m.registered with
      | false => rfl
      | true => simp [followUp, hregistered] at hfollow
    refine ⟨fun _ => { hm.atRest hfree with refresh := fun hregistered => ?_ },
      fun exchange hexchange => ?_, hm.deferred⟩
    · cases hgone.symm.trans hregistered
    · cases hfree.symm.trans hexchange
  | work first rest work hfree hline hwork =>
    have hwaits (hflag : m.deferred = true) :
        ∃ callback ∈ m.callbacks, callback.afterwards = .performDeferred := by
      simpa [hfree] using hm.deferred hflag
    cases work with
    | stop thenRegister =>
      exact release_standing fired { m with waiting := rest } first.call _ _ hwaits
    | exchange purpose =>
      refine startExchange_standing fired first.call purpose (fun hpurpose => ?_) hwaits
      have hregistered := registered_of_work hwork hpurpose
      exact ⟨hregistered, (hm.atRest hfree).registered_iff_dialog.mp hregistered⟩

/-- Moves leave a manager that stands well standing well. -/
theorem Moves.standing {m n : Manager} {begun : List Origin} {joined : List Waiter}
    {served : List Turn} {effects : List Effect} (hmoves : Moves m begun joined served n effects)
    (hfired : ∀ call, .timer call ∈ begun → fired call) (hm : m.Standing fired) :
    n.Standing fired := by
  induction hmoves with
  | refl => exact hm
  | cons hmove _ ih =>
    refine ih (fun call hcall => hfired call (List.mem_append_right _ hcall)) ?_
    exact hmove.standing (fun call hcall => hfired call (List.mem_append_left _ hcall)) hm

namespace Manager

/-- A step leaves a manager that stands well standing well. -/
theorem Standing.step {m : Manager} (hm : m.Standing fired) (now : Instant) (event : Event)
    (hfired : ∀ call, .timer call ∈ m.begins now event → fired call) :
    (m.step now event).1.Standing fired := by
  cases event with
  | replied reply => exact hm.receive now reply
  | called | granted | returned | fired => exact (m.moves_step now (by simp)).standing hfired hm

/-- A manager stands well after every run. -/
theorem IsNew.standing_after {m : Manager} (hm : m.IsNew) (history : History) :
    (m.after history).Standing fun call => .timer call ∈ m.begun history := by
  refine after_induction
    (p := fun history n => n.Standing fun call => .timer call ∈ m.begun history)
    m (hm.standing _) ?_ history
  intro history now event hstanding
  have hbegun := along_concat begins m history now event
  refine (hstanding.mono fun call hcall => ?_).step now event fun call hcall => ?_
  · simpa only [begun, hbegun] using List.mem_append_left _ hcall
  · simpa only [begun, hbegun] using List.mem_append_right _ hcall

/-- **What holds whenever nobody holds the lock.** After every run, if no call holds the lock, the
manager is unregistered, registered or failed; the flag, the state and the dialog agree on which;
the refresh timer runs only for a registration; and a registration has a refresh to come, by the
timer or by a call that the timer began and that still waits for the lock. If besides no call is in
progress, no un-REGISTER is left to be done. -/
theorem atRest_after {m : Manager} (hm : m.IsNew) (history : History)
    (hfree : (m.after history).exchange = none) :
    (m.after history).AtRest (∃ call, .timer call ∈ m.begun history ∧
        ⟨call, .refresh⟩ ∈ (m.after history).waiting) ∧
      ((m.after history).inProgress = [] → (m.after history).deferred = false) := by
  have hstanding := hm.standing_after history
  refine ⟨hstanding.atRest hfree, fun hnone => ?_⟩
  simp only [inProgress, List.append_eq_nil_iff, List.map_eq_nil_iff] at hnone
  cases hflag : (m.after history).deferred with
  | false => rfl
  | true =>
    rcases hstanding.deferred hflag with ⟨call, hexchange⟩ | ⟨callback, hcallback, _⟩
    · cases hfree.symm.trans hexchange
    · rw [hnone.2.2] at hcallback
      cases hcallback

end Manager

end ImsClient.Registration
