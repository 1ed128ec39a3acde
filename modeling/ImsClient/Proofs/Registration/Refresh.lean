import ImsClient.Proofs.Registration.Notices
import ImsClient.Proofs.Registration.Wire

/-!
# What a refresh may do

A refresh looks for the registration only when it has the lock, and so it does not
matter what came before it in line. If there is a registration, the requests of its
exchange go on the dialog that there is; if the registration is gone, there is
nothing to refresh. Only a turn to register opens a dialog: until there is one, a
manager without a registration sends nothing at all.
-/

namespace ImsClient.Registration

namespace Manager

/-- A request that is sent, with the manager as it is while the request is under way. -/
structure Sending where
  sender : Manager
  request : Sip.Request

/-- What an event sends. -/
def sendings (m : Manager) (now : Instant) (event : Event) : List Sending :=
  ((m.step now event).2.filterMap Effect.sent?).map (⟨(m.step now event).1, ·⟩)

/-- Neither is there a registration, nor an exchange under way that could bring one. -/
structure Dormant (m : Manager) : Prop where
  exchange : m.exchange = none
  registered : m.registered = false

/-- There is a registration, and its dialog has this Call-ID. -/
structure Upholds (callId : Identifier) (m : Manager) : Prop where
  registered : m.registered = true
  dialog : ∃ dialog, m.dialog = some dialog ∧ dialog.callId = callId

/-- What becomes of the registration on a dialog: it is upheld or given up, and whatever is sent
goes on the dialog and leaves it upheld. -/
structure Holds (callId : Identifier) (n : Manager) (effects : List Effect) : Prop where
  state : n.Dormant ∨ n.Upholds callId
  sent : ∀ request ∈ effects.filterMap Effect.sent?,
    n.Upholds callId ∧ request.callId? = some callId

variable {m n : Manager} {callId : Identifier}

/-- An attempt that fails gives the registration up. -/
theorem fail_dormant (m : Manager) (call : CallId) (purpose : Purpose) (error : Error) :
    (m.fail call purpose error).1.Dormant := ⟨rfl, rfl⟩

/-- An attempt that fails sends nothing. -/
theorem fail_holds (callId : Identifier) (m : Manager) (call : CallId) (purpose : Purpose)
    (error : Error) :
    Holds callId (m.fail call purpose error).1 (m.fail call purpose error).2 :=
  ⟨.inl (m.fail_dormant call purpose error), by simp [fail_eq, Effect.sent?]⟩

/-- A registration that is dropped is given up. -/
theorem release_dormant (m : Manager) (call : CallId) (notice : Notice) (afterwards : Afterwards) :
    (m.release.tell call notice afterwards).1.Dormant := ⟨rfl, rfl⟩

/-- To drop the registration sends nothing. -/
theorem release_holds (callId : Identifier) (m : Manager) (call : CallId) (notice : Notice)
    (afterwards : Afterwards) :
    Holds callId (m.release.tell call notice afterwards).1
      (m.release.tell call notice afterwards).2 :=
  ⟨.inl (m.release_dormant call notice afterwards), by simp [tell, Effect.sent?]⟩

/-! ### Exchanges -/

/-- A request of an exchange goes on the dialog of the registration. -/
theorem Upholds.send (hm : m.Upholds callId) (call : CallId) (purpose : Purpose) :
    Holds callId (m.send call purpose).1 (m.send call purpose).2 := by
  obtain ⟨_, hcarries⟩ := m.compose_carries purpose
  obtain ⟨procedure, supply, huses⟩ := m.compose_uses purpose
  rcases m.send_cases call purpose with
    ⟨n, request, _, hcompose, heq⟩ | ⟨n, error, _, _, heq⟩
  · rw [heq]
    rw [hcompose] at hcarries huses
    obtain rfl : n = _ := huses
    obtain ⟨dialog, hdialog, hrequest, _⟩ := hcarries request rfl
    obtain ⟨other, hother, rfl⟩ := hm.dialog
    cases hdialog.symm.trans hother
    refine ⟨.inr ⟨hm.registered, dialog, hdialog, rfl⟩, fun sent hsent => ?_⟩
    obtain rfl : sent = request := by simpa [Effect.sent?] using hsent
    exact ⟨⟨hm.registered, dialog, hdialog, rfl⟩, hrequest.callId⟩
  · rw [heq]
    exact fail_holds callId n call purpose error

/-- With a registration, an exchange begins on its dialog. -/
theorem Upholds.prepare (hm : m.Upholds callId) (purpose : Purpose) :
    (m.prepare purpose).Upholds callId := by
  obtain ⟨dialog, hdialog, hcallId⟩ := hm.dialog
  refine ⟨(m.prepare_prepared purpose).registered.trans hm.registered, dialog.advance, ?_, hcallId⟩
  cases purpose <;> simp [Manager.prepare, prepareDialog, hdialog]

/-- A reply is answered on the dialog of the registration, or ends the exchange. -/
theorem Upholds.receive (hm : m.Upholds callId) (now : Instant) (reply : Reply) :
    Holds callId (m.receive now reply).1 (m.receive now reply).2 := by
  cases hexchange : m.exchange with
  | none =>
    rw [receive_of_no_exchange now reply hexchange]
    exact ⟨.inr hm, by simp⟩
  | some exchange =>
    obtain ⟨call, purpose⟩ := exchange
    obtain ⟨dialog, hdialog, hcallId⟩ := hm.dialog
    by_cases hgood : ∃ response, reply = .response response ∧ response.status = 200
    · obtain ⟨response, rfl, hstatus⟩ := hgood
      simp only [Manager.receive, hexchange, judgeReply, judge, hstatus]
      cases purpose with
      | register =>
        exact ⟨.inr ⟨rfl, dialog, hdialog, hcallId⟩, by simp [succeed, tell, Effect.sent?]⟩
      | unregister => exact release_holds callId _ call _ _
    · obtain ⟨hlearns, hdone⟩ := m.judgeReply_learns now purpose
        fun response hresponse hstatus => hgood ⟨response, hresponse, hstatus⟩
      have hheeds := m.judgeReply_heeds now purpose reply
      rcases hjudge : m.judgeReply now purpose reply with ⟨n, verdict⟩
      rw [hjudge] at hlearns hdone hheeds
      simp only [Manager.receive, hexchange, hjudge]
      cases verdict with
      | done => exact absurd rfl hdone
      | fail error => exact fail_holds callId n call purpose error
      | resend =>
        have hn : { n with dialog := n.dialog.map Dialog.advance }.Upholds callId := by
          refine ⟨hlearns.registered.trans hm.registered, ?_⟩
          have hlearnt : n.dialog = _ := hheeds.dialog
          simp only [hlearnt, hdialog, Option.map_some]
          exact ⟨_, rfl, hcallId⟩
        exact hn.send call purpose

/-- Without a registration there is work only for whoever is to register. -/
theorem registered_of_work_of_ne {errand : Errand} {work : Work}
    (hwork : m.work? errand = some work) (herrand : errand ≠ .register) :
    m.registered = true := by
  cases errand with
  | register => exact absurd rfl herrand
  | refresh =>
    simp only [work?, Option.ite_none_right_eq_some, Bool.and_eq_true] at hwork
    exact hwork.1.1
  | stop | unregister =>
    simp only [work?, Option.ite_none_right_eq_some] at hwork
    exact hwork.1

/-- Whoever is not to register works on the registration that there is. -/
theorem Upholds.perform (hm : m.Upholds callId) (call : CallId) (work : Work) :
    Holds callId (m.perform call work).1 (m.perform call work).2 := by
  cases work with
  | exchange purpose =>
    simp only [Manager.perform, startExchange_eq]
    exact (hm.prepare purpose).send call purpose
  | stop => exact release_holds callId m call _ _

/-- Work that ends at once with a notice leaves no registration, and sends nothing. -/
theorem perform_dormant {call : CallId} {work : Work} {entry : CallId × Notice}
    (htold : entry ∈ (m.perform call work).2.filterMap Effect.told?) :
    (m.perform call work).1.Dormant ∧ (m.perform call work).2.filterMap Effect.sent? = [] := by
  cases work with
  | stop => exact ⟨m.release_dormant call _ _, rfl⟩
  | exchange purpose =>
    simp only [Manager.perform, startExchange_eq] at htold ⊢
    rcases (m.prepare purpose).send_cases call purpose with
      ⟨n, request, _, _, heq⟩ | ⟨n, error, _, _, heq⟩
    · simp [heq, Effect.told?] at htold
    · rw [heq]
      exact ⟨n.fail_dormant call purpose error, rfl⟩

/-- A reply that is followed by a notice that there is no registration leaves none, and nothing is
sent. -/
theorem receive_dormant {now : Instant} {reply : Reply} {entry : CallId × Notice}
    (htold : entry ∈ (m.receive now reply).2.filterMap Effect.told?)
    (hentry : entry.2.saysRegistered = false) :
    (m.receive now reply).1.Dormant ∧ (m.receive now reply).2.filterMap Effect.sent? = [] := by
  cases hexchange : m.exchange with
  | none => simp [receive_of_no_exchange now reply hexchange] at htold
  | some exchange =>
    rcases m.receive_cases now reply hexchange with
      ⟨n, request, _, heq⟩ | ⟨n, error, _, heq⟩ | ⟨response, _, _, heq⟩
    · simp [heq, Effect.told?] at htold
    · rw [heq]
      exact ⟨n.fail_dormant _ _ error, rfl⟩
    · rw [heq] at htold ⊢
      cases hpurpose : exchange.purpose with
      | register =>
        rw [hpurpose] at htold
        obtain rfl : entry = (exchange.call, .registered) := by
          simpa [succeed, tell, Effect.told?] using htold
        cases hentry
      | unregister => exact ⟨release_dormant _ _ _ _, rfl⟩

/-! ### Steps -/

/-- Another manager has the same registration, and the same exchange under way. -/
structure Retains (m n : Manager) : Prop where
  exchange : n.exchange = m.exchange
  registered : n.registered = m.registered
  dialog : n.dialog = m.dialog

/-- What comes of moves with which at most one call comes to work: it works on the registration as
it was, and nothing else is sent or told. -/
inductive WorksOnce (m : Manager) (served : List Turn) (n : Manager) (effects : List Effect) : Prop
  | idle (hjobs : served.filterMap Turn.job? = []) (hretains : m.Retains n)
      (hsent : effects.filterMap Effect.sent? = []) (htold : effects.filterMap Effect.told? = [])
  | work (o : Manager) (waiter : Waiter) (work : Work) (hbefore : m.Retains o)
      (hfree : o.exchange = none) (hwork : o.work? waiter.errand = some work)
      (hturn : ⟨waiter, some work⟩ ∈ served) (hafter : (o.perform waiter.call work).1.Retains n)
      (hsent : effects.filterMap Effect.sent? =
        (o.perform waiter.call work).2.filterMap Effect.sent?)
      (htold : effects.filterMap Effect.told? =
        (o.perform waiter.call work).2.filterMap Effect.told?)

/-- Still there is no registration. -/
theorem Retains.dormant (hretains : m.Retains n) (hm : m.Dormant) : n.Dormant where
  exchange := hretains.exchange.trans hm.exchange
  registered := hretains.registered.trans hm.registered

/-- Still the registration is upheld. -/
theorem Retains.upholds (hretains : m.Retains n) (hm : m.Upholds callId) : n.Upholds callId where
  registered := hretains.registered.trans hm.registered
  dialog := by
    rw [hretains.dialog]
    exact hm.dialog

/-- Still the registration is upheld or given up. -/
theorem Retains.state (hretains : m.Retains n) (hm : m.Dormant ∨ m.Upholds callId) :
    n.Dormant ∨ n.Upholds callId :=
  hm.imp hretains.dormant hretains.upholds

/-- What is retained twice is retained. -/
theorem Retains.trans {o : Manager} (hfirst : m.Retains n) (hrest : n.Retains o) : m.Retains o where
  exchange := hrest.exchange.trans hfirst.exchange
  registered := hrest.registered.trans hfirst.registered
  dialog := hrest.dialog.trans hfirst.dialog

/-- Work is a job of the turns. -/
theorem jobs_pos_of_work {waiter : Waiter} {work : Work} {served : List Turn}
    (hturn : ⟨waiter, some work⟩ ∈ served) : 0 < (served.filterMap Turn.job?).length :=
  List.length_pos_of_mem (List.mem_filterMap.mpr ⟨_, hturn, rfl⟩)

/-- Moves one after another have one job at most if they have so together. -/
theorem WorksOnce.append {o : Manager} {served served' : List Turn} {effects effects' : List Effect}
    (hfirst : m.WorksOnce served n effects) (hrest : n.WorksOnce served' o effects')
    (hone : ((served ++ served').filterMap Turn.job?).length ≤ 1) :
    m.WorksOnce (served ++ served') o (effects ++ effects') := by
  rw [List.filterMap_append, List.length_append] at hone
  cases hfirst with
  | idle hjobs hretains hsent htold =>
    cases hrest with
    | idle hjobs' hretains' hsent' htold' =>
      refine .idle ?_ (hretains.trans hretains') ?_ ?_
      · rw [List.filterMap_append, hjobs, hjobs', List.append_nil]
      · rw [List.filterMap_append, hsent, hsent', List.append_nil]
      · rw [List.filterMap_append, htold, htold', List.append_nil]
    | work p waiter work hbefore hfree hwork hturn hafter hsent' htold' =>
      refine .work p waiter work (hretains.trans hbefore) hfree hwork
        (List.mem_append_right _ hturn) hafter ?_ ?_
      · rw [List.filterMap_append, hsent, hsent', List.nil_append]
      · rw [List.filterMap_append, htold, htold', List.nil_append]
  | work p waiter work hbefore hfree hwork hturn hafter hsent htold =>
    have hjob := jobs_pos_of_work hturn
    cases hrest with
    | idle hjobs' hretains' hsent' htold' =>
      refine .work p waiter work hbefore hfree hwork (List.mem_append_left _ hturn)
        (hafter.trans hretains') ?_ ?_
      · rw [List.filterMap_append, hsent, hsent', List.append_nil]
      · rw [List.filterMap_append, htold, htold', List.append_nil]
    | work _ _ _ _ _ _ hturn' =>
      have hjob' := jobs_pos_of_work hturn'
      omega

end Manager

open Manager

/-- A move has one job at most. -/
theorem Move.worksOnce {m n : Manager} {begun : List Origin} {joined : List Waiter}
    {served : List Turn} {effects : List Effect} (hmove : Move m begun joined served n effects) :
    m.WorksOnce served n effects := by
  cases hmove with
  | arrive | fire | defer | conclude | redeem | proceed => exact .idle rfl ⟨rfl, rfl, rfl⟩ rfl rfl
  | decline first rest answer hfree hline hwork | pass first rest hfree hline hwork =>
    exact .idle (by simp [turn, Turn.job?, hwork]) ⟨rfl, rfl, rfl⟩ rfl rfl
  | work first rest work hfree hline hwork =>
    refine .work { m with waiting := rest } first work ⟨rfl, rfl, rfl⟩ hfree hwork ?_
      ⟨rfl, rfl, rfl⟩ rfl rfl
    simp only [turn, hwork, List.mem_singleton]

/-- Moves with one job at most come to the work of that job. -/
theorem Moves.worksOnce {m n : Manager} {begun : List Origin} {joined : List Waiter}
    {served : List Turn} {effects : List Effect} (hmoves : Moves m begun joined served n effects)
    (hone : (served.filterMap Turn.job?).length ≤ 1) : m.WorksOnce served n effects := by
  induction hmoves with
  | refl m => exact .idle rfl ⟨rfl, rfl, rfl⟩ rfl rfl
  | cons hmove _ ih =>
    refine hmove.worksOnce.append (ih ?_) hone
    rw [List.filterMap_append, List.length_append] at hone
    omega

namespace Manager

variable {m : Manager} {callId : Identifier} {now : Instant} {event : Event}

/-- Nobody has a turn, or one waiter has one, or a restart that finds nothing to stop has one and
then another one to register. -/
inductive FewTurns (m : Manager) (turns : List Turn) : Prop
  | nobody (hturns : turns = [])
  | one (waiter : Waiter) (hfree : m.exchange = none) (hturns : turns = [m.turn waiter])
  | restart (waiter : Waiter) (hfree : m.exchange = none) (herrand : waiter.errand = .stop true)
      (hgone : m.registered = false)
      (hturns : turns = [m.turn waiter, m.turn ⟨waiter.call, .register⟩])

/-- A waiter has a turn, and whoever gets in line because of it may have one, too. -/
theorem fewTurns_of_first (waiter : Waiter) (follows : Prop) [Decidable follows]
    (hfree : m.exchange = none) :
    m.FewTurns ((waiter :: if follows then m.followUp waiter else []).map m.turn) := by
  unfold followUp
  split
  · split
    · next hpass => exact .restart waiter hfree hpass.1 hpass.2 rfl
    · exact .one waiter hfree rfl
  · exact .one waiter hfree rfl

/-- Whoever gets in line has a turn if the lock is free. -/
theorem fewTurns_of_joins {joined : List Waiter}
    (hjoined : joined = [] ∨ ∃ waiter, joined = m.arrivals waiter) :
    m.FewTurns (if m.isFree then joined.map m.turn else []) := by
  by_cases hfree : m.isFree = true
  · rw [if_pos hfree]
    rcases hjoined with rfl | ⟨waiter, rfl⟩
    · exact .nobody rfl
    · exact fewTurns_of_first waiter _ (isFree_iff.mp hfree).1
  · rw [if_neg hfree]
    exact .nobody rfl

/-- An event brings few turns. -/
theorem fewTurns (m : Manager) (now : Instant) (event : Event) :
    m.FewTurns (m.turns now event) := by
  cases event with
  | granted =>
    unfold turns
    dsimp only
    split
    · next hfree _ => exact fewTurns_of_first _ _ hfree
    · exact .nobody rfl
  | replied reply => exact fewTurns_of_joins (.inl rfl)
  | called call what =>
    refine fewTurns_of_joins ?_
    unfold joins
    dsimp only
    split
    · exact .inl rfl
    · exact .inr ⟨_, rfl⟩
  | fired call =>
    refine fewTurns_of_joins ?_
    unfold joins
    dsimp only
    split
    · exact .inr ⟨_, rfl⟩
    · exact .inl rfl
  | returned call =>
    refine fewTurns_of_joins ?_
    unfold joins
    dsimp only
    cases m.callbacks.find? (·.call = call) with
    | none => exact .inl rfl
    | some callback =>
      rw [Option.elim_some]
      unfold resumptions
      split
      · exact .inr ⟨_, rfl⟩
      · split
        · exact .inr ⟨_, rfl⟩
        · exact .inl rfl
      · exact .inl rfl

/-- Only one of few turns is a job. -/
theorem FewTurns.length_jobs {turns : List Turn} (hturns : m.FewTurns turns) :
    (turns.filterMap Turn.job?).length ≤ 1 := by
  cases hturns with
  | nobody hturns => simp [hturns]
  | one waiter _ hturns =>
    rw [hturns]
    exact List.length_filterMap_le _ _
  | restart waiter _ herrand hgone hturns =>
    have hnone : (m.turn waiter).job? = none := by simp [turn, Turn.job?, work?, herrand, hgone]
    rw [hturns, List.filterMap_cons_none hnone]
    exact List.length_filterMap_le _ _

/-- An event is a reply, or brings one job at most. -/
theorem step_cases (m : Manager) (now : Instant) (event : Event) :
    (∃ reply, event = .replied reply) ∨
      m.WorksOnce (m.turns now event) (m.step now event).1 (m.step now event).2 := by
  by_cases hreply : ∃ reply, event = .replied reply
  · exact .inl hreply
  · have hmoves := m.moves_step now fun reply h => hreply ⟨reply, h⟩
    exact .inr (hmoves.worksOnce (m.fewTurns now event).length_jobs)

/-- A registration is upheld or given up until somebody registers. -/
theorem step_holds (hm : m.Dormant ∨ m.Upholds callId)
    (hnone : ∀ turn ∈ m.turns now event, turn.waiter.errand ≠ .register) :
    Holds callId (m.step now event).1 (m.step now event).2 := by
  rcases m.step_cases now event with ⟨reply, rfl⟩ | honce
  · rcases hm with hdormant | hupholds
    · simp only [step, receive_of_no_exchange now reply hdormant.exchange]
      exact ⟨.inl hdormant, by simp⟩
    · exact hupholds.receive now reply
  · cases honce with
    | idle hjobs hretains hsent htold => exact ⟨hretains.state hm, by simp [hsent]⟩
    | work o waiter work hbefore hfree hwork hturn hafter hsent htold =>
      have hregistered := registered_of_work_of_ne hwork (hnone _ hturn)
      have ho : o.Upholds callId := by
        rcases hbefore.state hm with hdormant | hupholds
        · cases hregistered.symm.trans hdormant.registered
        · exact hupholds
      obtain ⟨hstate, hsends⟩ := ho.perform waiter.call work
      refine ⟨hafter.state hstate, fun request hrequest => ?_⟩
      rw [hsent] at hrequest
      obtain ⟨hupholds, hcallId⟩ := hsends request hrequest
      exact ⟨hafter.upholds hupholds, hcallId⟩

/-- Without a registration nothing is sent until somebody registers. -/
theorem Dormant.step (hm : m.Dormant)
    (hnone : ∀ turn ∈ m.turns now event, turn.waiter.errand ≠ .register) :
    (m.step now event).1.Dormant ∧ m.sendings now event = [] := by
  unfold sendings
  rcases m.step_cases now event with ⟨reply, rfl⟩ | honce
  · simp only [Manager.step, receive_of_no_exchange now reply hm.exchange]
    exact ⟨hm, rfl⟩
  · cases honce with
    | idle hjobs hretains hsent htold =>
      rw [hsent]
      exact ⟨hretains.dormant hm, rfl⟩
    | work o waiter work hbefore hfree hwork hturn =>
      have hregistered := registered_of_work_of_ne hwork (hnone _ hturn)
      cases hregistered.symm.trans (hbefore.dormant hm).registered

/-- An event with which the listener is told that there is no registration leaves none, and sends
nothing. -/
theorem dormant_of_told {entry : CallId × Notice}
    (htold : entry ∈ (m.step now event).2.filterMap Effect.told?)
    (hentry : entry.2.saysRegistered = false) :
    (m.step now event).1.Dormant ∧ m.sendings now event = [] := by
  unfold sendings
  rcases m.step_cases now event with ⟨reply, rfl⟩ | honce
  · obtain ⟨hdormant, hsent⟩ := receive_dormant htold hentry
    exact ⟨hdormant, by simp only [Manager.step, hsent, List.map_nil]⟩
  · cases honce with
    | idle _ _ _ hnothing => simp [hnothing] at htold
    | work o waiter work hbefore hfree hwork hserved hafter hsent hsame =>
      rw [hsame] at htold
      obtain ⟨hdormant, hsilent⟩ := perform_dormant htold
      exact ⟨hafter.dormant hdormant, by rw [hsent, hsilent, List.map_nil]⟩

/-- A stop that has its turn leaves no registration, and sends nothing, if nobody registers. -/
theorem dormant_of_stop {turn : Turn} {thenRegister : Bool} (hturn : turn ∈ m.turns now event)
    (herrand : turn.waiter.errand = .stop thenRegister)
    (hnone : ∀ turn ∈ m.turns now event, turn.waiter.errand ≠ .register) :
    (m.step now event).1.Dormant ∧ m.sendings now event = [] := by
  cases m.fewTurns now event with
  | nobody hturns => simp [hturns] at hturn
  | restart waiter _ _ _ hturns =>
    exact absurd rfl (hnone (m.turn ⟨waiter.call, .register⟩) (by simp [hturns]))
  | one waiter hfree hturns =>
    obtain rfl : turn = m.turn waiter := by simpa [hturns] using hturn
    rw [turn_waiter] at herrand
    by_cases hregistered : m.registered = true
    · have hstop : m.work? waiter.errand = some (.stop thenRegister) := by
        simp only [herrand, work?, hregistered, if_true]
      rcases m.step_cases now event with ⟨reply, rfl⟩ | honce
      · simp [turns, joins] at hturn
      · cases honce with
        | idle hjobs => simp [hturns, turn, Turn.job?, hstop] at hjobs
        | work o other work hbefore hfree' hwork hserved hafter hsent htold =>
          rw [hturns, List.mem_singleton, turn, hstop] at hserved
          cases hserved
          exact ⟨hafter.dormant (o.release_dormant _ _ _), by rw [sendings, hsent]; rfl⟩
    · exact Dormant.step ⟨hfree, Bool.eq_false_iff.mpr hregistered⟩ hnone

/-- An event lets go of the registration: the listener is told that there is none, or a stop has its
turn and does not go on to register. -/
def LetsGo (m : Manager) (now : Instant) (event : Event) : Prop :=
  (∃ call notice, .tell call notice ∈ (m.step now event).2 ∧ notice.saysRegistered = false) ∨
    (∃ turn ∈ m.turns now event, ∃ thenRegister, turn.waiter.errand = .stop thenRegister) ∧
      ∀ turn ∈ m.turns now event, turn.waiter.errand ≠ .register

/-- An event that lets go of the registration leaves none, and sends nothing. -/
theorem LetsGo.dormant (h : m.LetsGo now event) :
    (m.step now event).1.Dormant ∧ m.sendings now event = [] := by
  rcases h with ⟨call, notice, htell, hnotice⟩ | ⟨⟨turn, hturn, thenRegister, herrand⟩, hnone⟩
  · exact dormant_of_told (List.mem_filterMap.mpr ⟨_, htell, rfl⟩) hnotice
  · exact dormant_of_stop hturn herrand hnone

/-! ### Runs -/

/-- Without a registration nothing is sent in a run in which nobody registers. -/
theorem Dormant.sendings_along (hm : m.Dormant) {history : History}
    (hnone : ∀ turn ∈ m.served history, turn.waiter.errand ≠ .register) :
    m.along sendings history = [] := by
  induction history generalizing m with
  | nil => rfl
  | cons entry history ih =>
    obtain ⟨now, event⟩ := entry
    obtain ⟨hstep, hrest⟩ := List.forall_mem_append.mp hnone
    obtain ⟨hnext, hsent⟩ := hm.step hstep
    rw [along_cons, hsent, ih hnext hrest, List.nil_append]

/-- In a run in which nobody registers, whatever is sent goes on the dialog of the registration that
there was at first, while it is upheld. -/
theorem upholds_of_sendings {history : History} (hm : m.Dormant ∨ m.Upholds callId)
    (hnone : ∀ turn ∈ m.served history, turn.waiter.errand ≠ .register) :
    ∀ sending ∈ m.along sendings history,
      sending.sender.Upholds callId ∧ sending.request.callId? = some callId := by
  induction history generalizing m with
  | nil => simp
  | cons entry history ih =>
    obtain ⟨now, event⟩ := entry
    obtain ⟨hstep, hrest⟩ := List.forall_mem_append.mp hnone
    obtain ⟨hnext, hsent⟩ := step_holds hm hstep
    refine List.forall_mem_append.mpr ⟨?_, ih hnext hrest⟩
    exact List.forall_mem_map.mpr hsent

/-- A refresh that comes to an exchange finds a registration and its dialog, and has the only turn
with its event. -/
theorem upholds_of_refresh {turn : Turn} (hturn : turn ∈ m.turns now event)
    (herrand : turn.waiter.errand = .refresh) (hwork : turn.work.isSome = true) :
    m.registered = true ∧ (∃ dialog, m.dialog = some dialog) ∧ m.turns now event = [turn] := by
  cases m.fewTurns now event with
  | nobody hturns => simp [hturns] at hturn
  | restart waiter _ hstop _ hturns =>
    rw [hturns, List.mem_cons, List.mem_singleton] at hturn
    rcases hturn with rfl | rfl
    · cases hstop.symm.trans herrand
    · cases herrand
  | one waiter _ hturns =>
    obtain rfl : turn = m.turn waiter := by simpa [hturns] using hturn
    rw [turn_waiter] at herrand
    have hready : m.registered = true ∧ m.dialog.isSome = true := by
      by_contra hmissing
      rw [← Bool.and_eq_true] at hmissing
      simp only [turn, herrand, work?, if_neg hmissing, Option.isSome_none] at hwork
      cases hwork
    exact ⟨hready.1, Option.isSome_iff_exists.mp hready.2, hturns⟩

/-- **A refresh never brings a registration back.** In any run, split at any event, until somebody
registers again: if a refresh came to an exchange with the event, there was a registration, and
every request that is sent goes on the dialog that it had, while that registration is upheld; and if
the event let go of the registration, no request is sent at all. -/
theorem refresh_revives_nothing (m : Manager) (before : History) (now : Instant) (event : Event)
    (rest : History)
    (hnone : ∀ turn ∈ (m.after (before ++ [(now, event)])).served rest,
      turn.waiter.errand ≠ .register) :
    (∀ turn ∈ (m.after before).turns now event, turn.waiter.errand = .refresh →
      turn.work.isSome = true →
        (m.after before).registered = true ∧ ∃ dialog, (m.after before).dialog = some dialog ∧
          ∀ sending ∈ (m.after before).along sendings ((now, event) :: rest),
            sending.sender.Upholds dialog.callId ∧
              sending.request.callId? = some dialog.callId) ∧
    ((m.after before).LetsGo now event →
      (m.after before).along sendings ((now, event) :: rest) = []) := by
  rw [after_concat] at hnone
  refine ⟨fun turn hturn herrand hwork => ?_, fun hgo => ?_⟩
  · obtain ⟨hregistered, ⟨dialog, hdialog⟩, hturns⟩ := upholds_of_refresh hturn herrand hwork
    refine ⟨hregistered, dialog, hdialog, ?_⟩
    refine upholds_of_sendings (.inr ⟨hregistered, dialog, hdialog, rfl⟩) ?_
    rw [served, along_cons]
    refine List.forall_mem_append.mpr ⟨?_, hnone⟩
    rw [hturns, List.forall_mem_singleton, herrand]
    decide
  · obtain ⟨hdormant, hsent⟩ := hgo.dormant
    rw [along_cons, hsent, hdormant.sendings_along hnone, List.nil_append]

/-- An example: a client is registered. -/
def sampleRegistered : History :=
  [(0, .called 0 .register), (1, .replied .accepted), (1, .returned 0)]

/-- An example: a refresh of the registration is due. -/
def sampleLater : Instant := .ofMilliseconds 4000000

/-- An example: while a refresh is under way, which goes on with a longer lifetime, a stop gets in
line and another refresh behind it. -/
def sampleOvertaken : History :=
  [(sampleLater, .called 2 .stop), (sampleLater, .called 3 .refresh),
    (sampleLater, .replied (.response
      { status := 423, headers := [.ofText "Min-Expires" "7200"] })),
    (sampleLater, .replied .accepted)]

/-- In the example, the refresh that the timer starts sends two requests on the dialog of the
registration; then the stop has its turn, and the refresh behind it sends none. -/
theorem refresh_behind_stop_in_sample :
    ((sample.after sampleRegistered).along sendings
        ((sampleLater, .fired 1) :: sampleOvertaken)).length = 2 ∧
      (∃ dialog, (sample.after sampleRegistered).dialog = some dialog ∧
        ∀ sending ∈ (sample.after sampleRegistered).along sendings
            ((sampleLater, .fired 1) :: sampleOvertaken),
          sending.sender.Upholds dialog.callId ∧
            sending.request.callId? = some dialog.callId) ∧
      (sample.after (sampleRegistered ++ (sampleLater, .fired 1) :: sampleOvertaken)).along sendings
        [(sampleLater, .granted), (sampleLater, .granted)] = [] := by
  have hrefresh := refresh_revives_nothing sample sampleRegistered sampleLater (.fired 1)
    sampleOvertaken (by decide +kernel)
  have hstop := refresh_revives_nothing sample
    (sampleRegistered ++ (sampleLater, .fired 1) :: sampleOvertaken) sampleLater .granted
    [(sampleLater, .granted)] (by decide +kernel)
  refine ⟨by decide +kernel, ?_, hstop.2 ?_⟩
  · exact (hrefresh.1 ⟨⟨1, .refresh⟩, some (.exchange .register)⟩ (by decide +kernel) rfl rfl).2
  · exact .inr ⟨⟨⟨⟨2, .stop false⟩, some (.stop false)⟩, by decide +kernel, false, rfl⟩,
      by decide +kernel⟩

end Manager

end ImsClient.Registration
