import ImsClient.Proofs.Registration.Standing
import ImsClient.Proofs.Registration.Traffic

/-!
# The ledger of a registration

What passes between a manager and the registrar along a run is its traffic. Whatever
a manager does, it touches what it makes its requests of in a few ways only: it opens
a dialog, moves it on to the next request, composes that request, takes in a reply,
or drops the dialog. A relation between the traffic and the manager that each of
these keeps up is kept up by every run.
-/

namespace ImsClient.Registration

namespace Manager

/-- What a manager sent with some effects, in the exchange that is under way after them. -/
def sends (m : Manager) (effects : List Effect) : Traffic :=
  match m.exchange with
  | some exchange => (effects.filterMap Effect.sent?).map (.sent exchange.purpose)
  | none => []

/-- Without requests, nothing is sent. -/
theorem sends_of_silent (m : Manager) {effects : List Effect}
    (hsilent : effects.filterMap Effect.sent? = []) : m.sends effects = [] := by
  unfold sends
  split
  · rw [hsilent, List.map_nil]
  · rfl

/-- What is sent with effects one after another is sent one after another. -/
theorem sends_append (m : Manager) (effects effects' : List Effect) :
    m.sends (effects ++ effects') = m.sends effects ++ m.sends effects' := by
  unfold sends
  split
  · rw [List.filterMap_append, List.map_append]
  · rfl

/-- What passes between a manager and the registrar on an event. -/
def signals (m : Manager) (now : Instant) (event : Event) : Traffic :=
  (match m.exchange, event with
    | some exchange, .replied reply => [.heard exchange.purpose reply]
    | _, _ => []) ++
  (m.step now event).1.sends (m.step now event).2

/-- What passes between a manager and the registrar along a run, in order. -/
def traffic (m : Manager) (history : History) : Traffic := m.along signals history

/-- What passes on a reply to an exchange is the reply, and what is sent because of it. -/
theorem signals_replied {m : Manager} {exchange : Exchange} (now : Instant) (reply : Reply)
    (hexchange : m.exchange = some exchange) :
    m.signals now (.replied reply) = .heard exchange.purpose reply ::
      (m.receive now reply).1.sends (m.receive now reply).2 := by
  simp only [signals, hexchange]
  rfl

/-- A reply to no exchange does not count. -/
theorem signals_of_no_exchange {m : Manager} (now : Instant) (reply : Reply)
    (hexchange : m.exchange = none) : m.signals now (.replied reply) = [] := by
  have hstep : m.step now (.replied reply) = (m, []) := receive_of_no_exchange now reply hexchange
  simp only [signals, hexchange, hstep]
  exact sends_of_silent m rfl

/-- What passes on any other event is what is sent. -/
theorem signals_of_not_replied (m : Manager) (now : Instant) {event : Event}
    (hevent : ∀ reply, event ≠ .replied reply) :
    m.signals now event = (m.step now event).1.sends (m.step now event).2 := by
  unfold signals
  split
  · exact absurd rfl (hevent _)
  · rfl

/-- What an exchange that starts sends belongs to it. -/
theorem requests_startExchange (m : Manager) (call : CallId) (purpose : Purpose) :
    ((m.startExchange call purpose).1.sends (m.startExchange call purpose).2).requests =
      (m.startExchange call purpose).2.filterMap Effect.sent? := by
  rw [startExchange_eq]
  rcases (m.prepare purpose).send_cases call purpose with ⟨_, _, _, _, heq⟩ | ⟨_, _, _, _, heq⟩
  · rw [heq]
    rfl
  · rw [heq]
    rfl

end Manager

open Manager

/-! ### Requests -/

variable {m n : Manager} {begun : List Origin} {joined : List Waiter} {served : List Turn}
  {effects : List Effect}

/-- Whatever a move sends belongs to the exchange that is under way after it. -/
theorem Move.requests (hmove : Move m begun joined served n effects) :
    (n.sends effects).requests = effects.filterMap Effect.sent? := by
  cases hmove with
  | arrive | fire | defer | conclude | redeem | proceed | decline | pass =>
    rw [sends_of_silent _ rfl]
    rfl
  | work first rest work =>
    cases work with
    | stop thenRegister => rfl
    | exchange purpose => exact requests_startExchange _ first.call purpose

/-- What a move sent is told by the exchange after the moves behind it as well. -/
theorem Moves.sends_eq {m₁ m₂ : Manager} {begun' : List Origin} {joined' : List Waiter}
    {served' : List Turn} {effects' : List Effect} (hmove : Move m begun joined served m₁ effects)
    (hmoves : Moves m₁ begun' joined' served' m₂ effects') :
    m₂.sends effects = m₁.sends effects := by
  cases hexchange : m₁.exchange with
  | none =>
    have hnone : m₁.sends effects = [] := by simp only [sends, hexchange]
    have hrequests := hmove.requests
    rw [hnone] at hrequests
    rw [hnone, sends_of_silent _ hrequests.symm]
  | some exchange =>
    -- The exchange that sent something is under way until a reply comes.
    obtain ⟨hstands, _⟩ := hmoves.standsBy (by rw [hexchange]; rfl)
    simp only [sends, hstands.exchange]

/-- Whatever moves send belongs to the exchange that is under way after them. -/
theorem Moves.requests (hmoves : Moves m begun joined served n effects) :
    (n.sends effects).requests = effects.filterMap Effect.sent? := by
  induction hmoves with
  | refl m =>
    rw [sends_of_silent _ rfl]
    rfl
  | cons hmove hmoves ih =>
    rw [sends_append, Moves.sends_eq hmove hmoves, Traffic.requests, List.filterMap_append,
      List.filterMap_append, ← hmove.requests, ← ih]
    rfl

namespace Manager

/-- The requests of the signals of an event are those that the event sends. -/
theorem requests_signals (m : Manager) (now : Instant) (event : Event) :
    (m.signals now event).requests = (m.step now event).2.filterMap Effect.sent? := by
  have hmoves (hevent : ∀ reply, event ≠ .replied reply) :
      (m.signals now event).requests = (m.step now event).2.filterMap Effect.sent? := by
    rw [m.signals_of_not_replied now hevent]
    exact (m.moves_step now hevent).requests
  cases event with
  | called | granted | returned | fired => exact hmoves (by simp)
  | replied reply =>
    change _ = (m.receive now reply).2.filterMap Effect.sent?
    cases hexchange : m.exchange with
    | none =>
      rw [signals_of_no_exchange now reply hexchange, receive_of_no_exchange now reply hexchange]
      rfl
    | some exchange =>
      rw [signals_replied now reply hexchange]
      rcases m.receive_cases now reply hexchange with
        ⟨n, request, hlearns, heq⟩ | ⟨n, error, _, heq⟩ | ⟨response, _, _, heq⟩
      · have hsame := hlearns.exchange.trans hexchange
        rw [heq]
        simp only [sends, hsame]
        rfl
      · rw [heq]
        rfl
      · rw [heq]
        cases exchange.purpose <;> rfl

/-- The requests of the traffic are those that the run hands to the transport. -/
theorem requests_traffic (m : Manager) (history : History) :
    (m.traffic history).requests = (m.trace history).filterMap Effect.sent? := by
  refine after_induction
    (p := fun history _ => (m.traffic history).requests = (m.trace history).filterMap Effect.sent?)
    m rfl ?_ history
  intro history now event hrequests
  rw [traffic, trace, along_concat, along_concat, Traffic.requests, List.filterMap_append,
    List.filterMap_append]
  exact congrArg₂ _ hrequests ((m.after history).requests_signals now event)

/-! ### What is kept up -/

/-- A dialog that is opened has a new Call-ID and a new tag, and the procedure starts afresh
on it. -/
theorem prepareDialog_of_none (hdialog : m.dialog = none) :
    m.prepareDialog =
      { m with
        supply := ((m.supply.draw (.call m.bound.ip.text)).2.draw .tag).2
        procedure := m.procedure.init
        dialog := some
          { callId := (m.supply.draw (.call m.bound.ip.text)).1
            target := m.settings.homeUri
            localParty := m.settings.publicUri
            remoteParty := m.settings.publicUri
            localTag := ((m.supply.draw (.call m.bound.ip.text)).2.draw .tag).1
            route := ["<sip:" ++ m.settings.homeDomain ++ ";lr>"] } } := by
  simp only [prepareDialog, hdialog, Dialog.create]

/-- Another manager has the same to make its requests of. -/
structure Keeps (m n : Manager) : Prop where
  settings : n.settings = m.settings
  supply : n.supply = m.supply
  expiry : n.expiry = m.expiry
  dialog : n.dialog = m.dialog

/-- A relation between the number of requests that are due, the traffic and the manager is kept up
by everything that touches what the manager makes its requests of. -/
structure KeptUp (p : Nat → Traffic → Manager → Prop) : Prop where
  keeps : ∀ {due traffic m n}, p due traffic m → m.Keeps n → n.procedure = m.procedure →
    p due traffic n
  /-- Without a dialog, no request is due. -/
  drops : ∀ {due traffic m}, p due traffic m → p 0 traffic { m with dialog := none }
  opens : ∀ {traffic m}, p 0 traffic m → m.dialog = none → p 1 traffic m.prepareDialog
  advances : ∀ {traffic m}, p 0 traffic m →
    p 1 traffic { m with dialog := m.dialog.map Dialog.advance }
  sends : ∀ {traffic m purpose request}, p 1 traffic m → (m.compose purpose).1 = .ok request →
    p 0 (traffic ++ [.sent purpose request]) (m.compose purpose).2
  refuses : ∀ {traffic m purpose error}, p 1 traffic m → (m.compose purpose).1 = .error error →
    p 1 traffic (m.compose purpose).2
  hears : ∀ {traffic m} now purpose reply, p 0 traffic m → m.dialog.isSome = true →
    (∀ error, (m.judgeReply now purpose reply).2 ≠ .fail error) →
    p 0 (traffic ++ [.heard purpose reply]) (m.judgeReply now purpose reply).1
  /-- A reply that fails the attempt is the last one on the dialog. -/
  fails : ∀ {traffic m error} now purpose reply, p 0 traffic m → m.dialog.isSome = true →
    (m.judgeReply now purpose reply).2 = .fail error →
    p 0 (traffic ++ [.heard purpose reply])
      { (m.judgeReply now purpose reply).1 with dialog := none }

namespace KeptUp

variable {p : Nat → Traffic → Manager → Prop} {traffic : Traffic}

/-- The request that is due is sent, or the dialog is dropped. -/
theorem send (hp : KeptUp p) (h : p 1 traffic m) (call : CallId) (purpose : Purpose) :
    p 0 (traffic ++ (m.send call purpose).1.sends (m.send call purpose).2)
      (m.send call purpose).1 := by
  rcases m.send_cases call purpose with
    ⟨n, request, _, hcompose, heq⟩ | ⟨n, error, _, hcompose, heq⟩
  · have hsent := hp.sends h (congrArg Prod.fst hcompose)
    rw [hcompose] at hsent
    rw [heq]
    exact hp.keeps hsent ⟨rfl, rfl, rfl, rfl⟩ rfl
  · have hrefused := hp.refuses h (congrArg Prod.fst hcompose)
    rw [hcompose] at hrefused
    rw [heq, sends_of_silent _ rfl, List.append_nil]
    exact hp.keeps (hp.drops hrefused) ⟨rfl, rfl, rfl, rfl⟩ rfl

/-- The first request of an attempt is due once it is prepared. -/
theorem prepare (hp : KeptUp p) (h : p 0 traffic m) (purpose : Purpose) :
    p 1 traffic (m.prepare purpose) := by
  cases purpose with
  | unregister => exact hp.keeps (hp.advances h) ⟨rfl, rfl, rfl, rfl⟩ rfl
  | register =>
    cases hdialog : m.dialog with
    | none => exact hp.keeps (hp.opens h hdialog) ⟨rfl, rfl, rfl, rfl⟩ rfl
    | some dialog =>
      refine hp.keeps (hp.advances h) ?_ ?_
      · simp only [Manager.prepare, prepareDialog, hdialog]
        exact ⟨rfl, rfl, rfl, rfl⟩
      · simp only [Manager.prepare, prepareDialog, hdialog]

/-- A reply is taken in, and then the next request is sent or the exchange ends. -/
theorem receive (hp : KeptUp p) (h : p 0 traffic m) (now : Instant) (reply : Reply)
    {exchange : Exchange} (hexchange : m.exchange = some exchange)
    (hdialog : m.dialog.isSome = true) :
    p 0 (traffic ++ .heard exchange.purpose reply ::
      (m.receive now reply).1.sends (m.receive now reply).2) (m.receive now reply).1 := by
  obtain ⟨call, purpose⟩ := exchange
  have hhears := hp.hears now purpose reply h hdialog
  rcases hjudge : m.judgeReply now purpose reply with ⟨n, verdict⟩
  rw [hjudge] at hhears
  simp only [Manager.receive, hexchange, hjudge]
  rw [List.append_cons]
  cases verdict with
  | resend => exact hp.send (hp.advances (hhears (by simp))) call purpose
  | done =>
    have hheard := hhears (by simp)
    cases purpose with
    | register =>
      rw [sends_of_silent _ rfl, List.append_nil]
      exact hp.keeps hheard ⟨rfl, rfl, rfl, rfl⟩ rfl
    | unregister =>
      rw [sends_of_silent _ rfl, List.append_nil]
      exact hp.keeps (hp.drops hheard) ⟨rfl, rfl, rfl, rfl⟩ rfl
  | fail error =>
    have hfailed := hp.fails now purpose reply h hdialog (congrArg Prod.snd hjudge)
    rw [hjudge] at hfailed
    rw [sends_of_silent _ rfl, List.append_nil]
    exact hp.keeps hfailed ⟨rfl, rfl, rfl, rfl⟩ rfl

/-- A move keeps the relation up. -/
theorem move (hp : KeptUp p) (h : p 0 traffic m)
    (hmove : Move m begun joined served n effects) : p 0 (traffic ++ n.sends effects) n := by
  cases hmove with
  | arrive | fire | defer | conclude | redeem | proceed | decline | pass =>
    rw [sends_of_silent _ rfl, List.append_nil]
    exact hp.keeps h ⟨rfl, rfl, rfl, rfl⟩ rfl
  | work first rest work =>
    have hrest : p 0 traffic { m with waiting := rest } := hp.keeps h ⟨rfl, rfl, rfl, rfl⟩ rfl
    cases work with
    | stop thenRegister =>
      rw [sends_of_silent _ rfl, List.append_nil]
      exact hp.keeps (hp.drops hrest) ⟨rfl, rfl, rfl, rfl⟩ rfl
    | exchange purpose =>
      simp only [perform]
      rw [startExchange_eq]
      exact hp.send (hp.prepare hrest purpose) first.call purpose

/-- So do moves one after another. -/
theorem moves (hp : KeptUp p) (h : p 0 traffic m)
    (hmoves : Moves m begun joined served n effects) : p 0 (traffic ++ n.sends effects) n := by
  induction hmoves generalizing traffic with
  | refl m => rwa [sends_of_silent _ rfl, List.append_nil]
  | cons hmove hmoves ih =>
    rw [sends_append, Moves.sends_eq hmove hmoves, ← List.append_assoc]
    exact ih (hp.move h hmove)

/-- So does every event. -/
theorem step (hp : KeptUp p) (h : p 0 traffic m) {fired : CallId → Prop} (hm : m.Standing fired)
    (now : Instant) (event : Event) :
    p 0 (traffic ++ m.signals now event) (m.step now event).1 := by
  have hmoves (hevent : ∀ reply, event ≠ .replied reply) :
      p 0 (traffic ++ m.signals now event) (m.step now event).1 := by
    rw [m.signals_of_not_replied now hevent]
    exact hp.moves h (m.moves_step now hevent)
  cases event with
  | called | granted | returned | fired => exact hmoves (by simp)
  | replied reply =>
    change p 0 _ (m.receive now reply).1
    cases hexchange : m.exchange with
    | none =>
      rw [signals_of_no_exchange now reply hexchange, receive_of_no_exchange now reply hexchange,
        List.append_nil]
      exact h
    | some exchange =>
      rw [signals_replied now reply hexchange]
      exact hp.receive h now reply hexchange (hm.underWay exchange hexchange).dialog

/-- **What the ledger shows.** A relation that holds of a new manager before any traffic, and is
kept up, holds of the manager after every run with the traffic of the run. -/
theorem after (hp : KeptUp p) (hm : m.IsNew) (h : p 0 [] m) (history : History) :
    p 0 (m.traffic history) (m.after history) := by
  refine after_induction (p := fun history n => p 0 (m.traffic history) n) m h ?_ history
  intro history now event hbefore
  rw [traffic, along_concat]
  exact hp.step hbefore (hm.standing_after history) now event

end KeptUp

end Manager

end ImsClient.Registration
