import ImsClient.Proofs.Registration.Turn

/-!
# Exchanges with the registrar

An exchange begins with a turn, goes on with every response that asks for one more
request, and ends with the reply that decides it. What each of these does to the
manager is told once here: an exchange that goes on holds the lock, and one that
ends gives the lock back and gives one notice in the same step.
-/

namespace ImsClient.Registration

/-- The state in which an exchange is under way. -/
def Purpose.state : Purpose → State
  | register => .registering
  | unregister _ => .unregistering

namespace Manager

/-- Another manager differs from a manager at most in what an exchange learns from its replies
and uses up for its requests. -/
structure Learns (m n : Manager) : Prop where
  settings : n.settings = m.settings
  bound : n.bound = m.bound
  state : n.state = m.state
  deferred : n.deferred = m.deferred
  registered : n.registered = m.registered
  timer : n.timer = m.timer
  dialog : n.dialog.isSome = m.dialog.isSome
  exchange : n.exchange = m.exchange
  waiting : n.waiting = m.waiting
  callbacks : n.callbacks = m.callbacks

/-- A manager differs from itself in nothing. -/
theorem Learns.refl (m : Manager) : m.Learns m :=
  ⟨rfl, rfl, rfl, rfl, rfl, rfl, rfl, rfl, rfl, rfl⟩

/-- What is learnt in two parts is learnt. -/
theorem Learns.trans {m n o : Manager} (hfirst : m.Learns n) (hrest : n.Learns o) : m.Learns o where
  settings := hrest.settings.trans hfirst.settings
  bound := hrest.bound.trans hfirst.bound
  state := hrest.state.trans hfirst.state
  deferred := hrest.deferred.trans hfirst.deferred
  registered := hrest.registered.trans hfirst.registered
  timer := hrest.timer.trans hfirst.timer
  dialog := hrest.dialog.trans hfirst.dialog
  exchange := hrest.exchange.trans hfirst.exchange
  waiting := hrest.waiting.trans hfirst.waiting
  callbacks := hrest.callbacks.trans hfirst.callbacks

/-- What an attempt that fails leaves, after both halves of its end. -/
theorem fail_eq (m : Manager) (call : CallId) (purpose : Purpose) (error : Error) :
    m.fail call purpose error =
      ({ m with
          registered := false
          deferred := false
          timer := m.timer.stop
          dialog := none
          state := .failed
          exchange := none
          callbacks := m.callbacks ++ [⟨call, afterFailure purpose⟩] },
        [.tell call (.failed error)]) := rfl

/-! ### Requests -/

/-- To compose a request uses the procedure and draws from the supply, and does nothing else. -/
theorem compose_uses (m : Manager) (purpose : Purpose) :
    ∃ procedure supply, (m.compose purpose).2 = { m with procedure, supply } := by
  unfold compose
  split
  · exact ⟨m.procedure, m.supply, rfl⟩
  · dsimp only
    generalize (if purpose.isUnregister = true then 0 else m.expiry) = expiry
    split
    · exact ⟨m.procedure, m.supply, rfl⟩
    · split <;> exact ⟨_, _, rfl⟩

/-- To compose a request changes nothing but what an exchange uses up. -/
theorem compose_learns (m : Manager) (purpose : Purpose) : m.Learns (m.compose purpose).2 := by
  obtain ⟨procedure, supply, heq⟩ := m.compose_uses purpose
  rw [heq]
  exact ⟨rfl, rfl, rfl, rfl, rfl, rfl, rfl, rfl, rfl, rfl⟩

/-- To compose a request does not depend on who holds the lock. -/
theorem compose_exchange (m : Manager) (exchange : Option Exchange) (purpose : Purpose) :
    { m with exchange }.compose purpose =
      ((m.compose purpose).1, { (m.compose purpose).2 with exchange }) := by
  simp only [compose]
  split
  · rfl
  · split
    · rfl
    · split <;> rfl

/-- To send a request does not depend on who held the lock before. -/
theorem send_exchange (m : Manager) (exchange : Option Exchange) (call : CallId)
    (purpose : Purpose) : { m with exchange }.send call purpose = m.send call purpose := by
  simp only [send, compose_exchange]
  rcases m.compose purpose with ⟨_ | _, n⟩ <;> rfl

/-- A request of an exchange is sent and the exchange holds the lock, or it cannot be composed and
the attempt fails. -/
theorem send_cases (m : Manager) (call : CallId) (purpose : Purpose) :
    (∃ n request, m.Learns n ∧ m.compose purpose = (.ok request, n) ∧
      m.send call purpose =
        ({ n with exchange := some ⟨call, purpose⟩ },
          [.send request m.settings.transactionTime])) ∨
    (∃ n error, m.Learns n ∧ m.compose purpose = (.error error, n) ∧
      m.send call purpose = n.fail call purpose error) := by
  have hlearns := m.compose_learns purpose
  rcases hcompose : m.compose purpose with ⟨composed, n⟩
  rw [hcompose] at hlearns
  cases composed with
  | ok request =>
    have hsettings : n.settings = m.settings := hlearns.settings
    exact .inl ⟨n, request, hlearns, rfl, by simp only [send, hcompose, hsettings]⟩
  | error error => exact .inr ⟨n, error, hlearns, rfl, by simp only [send, hcompose]⟩

/-- The manager that is about to send the first request of an attempt. -/
def prepare (m : Manager) : Purpose → Manager
  | .register => { m.prepareDialog with state := .registering, challenges := 0, rejections := 0 }
  | .unregister _ =>
    { m with
      state := .unregistering
      timer := m.timer.stop
      dialog := m.dialog.map Dialog.advance
      challenges := 0
      rejections := 0 }

/-- An exchange starts by sending its first request. -/
theorem startExchange_eq (m : Manager) (call : CallId) (purpose : Purpose) :
    m.startExchange call purpose = (m.prepare purpose).send call purpose := by
  cases purpose <;> rfl

/-- How a manager that is about to send the first request of an attempt comes from the manager
before: its state says what it is about to do, its counts are zero, and to register it has a
dialog. -/
structure Prepared (m n : Manager) (purpose : Purpose) : Prop where
  settings : n.settings = m.settings
  bound : n.bound = m.bound
  state : n.state = purpose.state
  deferred : n.deferred = m.deferred
  registered : n.registered = m.registered
  timer : n.timer = if purpose.isUnregister then m.timer.stop else m.timer
  dialog : n.dialog.isSome = (!purpose.isUnregister || m.dialog.isSome)
  challenges : n.challenges = 0
  rejections : n.rejections = 0
  exchange : n.exchange = m.exchange
  waiting : n.waiting = m.waiting
  callbacks : n.callbacks = m.callbacks

/-- To prepare an attempt keeps the line and the flags. -/
theorem prepare_prepared (m : Manager) (purpose : Purpose) :
    m.Prepared (m.prepare purpose) purpose := by
  cases purpose with
  | unregister deferred =>
    exact ⟨rfl, rfl, rfl, rfl, rfl, rfl, Option.isSome_map, rfl, rfl, rfl, rfl, rfl⟩
  | register =>
    cases hdialog : m.dialog with
    | none =>
      simp only [prepare, prepareDialog, hdialog]
      exact ⟨rfl, rfl, rfl, rfl, rfl, rfl, rfl, rfl, rfl, rfl, rfl, rfl⟩
    | some dialog =>
      simp only [prepare, prepareDialog, hdialog]
      exact ⟨rfl, rfl, rfl, rfl, rfl, rfl, rfl, rfl, rfl, rfl, rfl, rfl⟩

/-! ### Replies -/

/-- A 302 changes at most where the dialog leads. -/
theorem redirect_learns (m : Manager) (response : Sip.Response) :
    m.Learns (m.redirect response).1 ∧ (m.redirect response).2 ≠ .done := by
  unfold redirect
  split
  · exact ⟨.refl m, by simp [failure]⟩
  · exact ⟨⟨rfl, rfl, rfl, rfl, rfl, rfl, Option.isSome_map, rfl, rfl, rfl⟩, by simp⟩

/-- A 401 is counted, and its challenge is read. -/
theorem answerChallenge_learns (m : Manager) (response : Sip.Response) :
    m.Learns (m.answerChallenge response).1 ∧ (m.answerChallenge response).2 ≠ .done := by
  unfold answerChallenge
  dsimp only
  split
  · exact ⟨⟨rfl, rfl, rfl, rfl, rfl, rfl, rfl, rfl, rfl, rfl⟩, by simp [failure]⟩
  · split
    · exact ⟨⟨rfl, rfl, rfl, rfl, rfl, rfl, rfl, rfl, rfl, rfl⟩, by simp⟩
    · exact ⟨⟨rfl, rfl, rfl, rfl, rfl, rfl, rfl, rfl, rfl, rfl⟩, by simp [failure]⟩

/-- A 423 changes at most the lifetime to ask for. -/
theorem adoptMinimum_learns (m : Manager) (response : Sip.Response) :
    m.Learns (m.adoptMinimum response).1 ∧ (m.adoptMinimum response).2 ≠ .done := by
  unfold adoptMinimum
  split
  · exact ⟨.refl m, by simp [failure]⟩
  · exact ⟨⟨rfl, rfl, rfl, rfl, rfl, rfl, rfl, rfl, rfl, rfl⟩, by simp⟩

/-- A rejection is counted, or the delay that it asks for is kept. -/
theorem retry_learns (m : Manager) (response : Sip.Response) :
    m.Learns (m.retry response).1 ∧ (m.retry response).2 ≠ .done := by
  unfold retry
  split
  · exact ⟨⟨rfl, rfl, rfl, rfl, rfl, rfl, rfl, rfl, rfl, rfl⟩, by simp [failure]⟩
  · dsimp only
    split
    · exact ⟨⟨rfl, rfl, rfl, rfl, rfl, rfl, rfl, rfl, rfl, rfl⟩, by simp [failure]⟩
    · exact ⟨⟨rfl, rfl, rfl, rfl, rfl, rfl, rfl, rfl, rfl, rfl⟩, by simp⟩

/-- A reply other than a 200 teaches at most, and never completes an exchange. -/
theorem judgeReply_learns (m : Manager) (now : Instant) (purpose : Purpose) {reply : Reply}
    (hreply : ∀ response, reply = .response response → response.status ≠ 200) :
    m.Learns (m.judgeReply now purpose reply).1 ∧
      (m.judgeReply now purpose reply).2 ≠ .done := by
  cases reply with
  | failure error => exact ⟨.refl m, by simp [judgeReply, failure]⟩
  | none => exact ⟨.refl m, by simp [judgeReply, failure]⟩
  | response response =>
    have hstatus := hreply response rfl
    simp only [judgeReply]
    unfold judge
    split
    · contradiction
    · exact m.redirect_learns response
    · exact m.answerChallenge_learns response
    · split
      · exact ⟨.refl m, by simp [failure]⟩
      · exact m.adoptMinimum_learns response
    · split
      · exact m.retry_learns response
      · exact ⟨.refl m, by simp [failure]⟩

/-- To judge a reply leaves the lock with the call that has it. -/
theorem judgeReply_exchange (m : Manager) (now : Instant) (purpose : Purpose) (reply : Reply) :
    (m.judgeReply now purpose reply).1.exchange = m.exchange := by
  by_cases hgood : ∃ response, reply = .response response ∧ response.status = 200
  · obtain ⟨response, rfl, hstatus⟩ := hgood
    simp only [judgeReply, judge, hstatus]
    split <;> rfl
  · exact (m.judgeReply_learns now purpose fun response hresponse hstatus =>
      hgood ⟨response, hresponse, hstatus⟩).1.exchange

/-- To move the dialog on to its next request keeps everything else. -/
theorem learns_advance (m : Manager) : m.Learns { m with dialog := m.dialog.map Dialog.advance } :=
  ⟨rfl, rfl, rfl, rfl, rfl, rfl, Option.isSome_map, rfl, rfl, rfl⟩

/-- **What a reply does.** It is answered by the next request, or the attempt fails, or a 200 ends
the exchange well. -/
theorem receive_cases (m : Manager) (now : Instant) (reply : Reply) {exchange : Exchange}
    (hexchange : m.exchange = some exchange) :
    (∃ n request, m.Learns n ∧
      m.receive now reply = (n, [.send request m.settings.transactionTime])) ∨
    (∃ n error, m.Learns n ∧
      m.receive now reply = n.fail exchange.call exchange.purpose error) ∨
    (∃ response, reply = .response response ∧ response.status = 200 ∧
      m.receive now reply =
        (if exchange.purpose.isUnregister then m.takeRelease
          else m.takeGrant now response).succeed exchange.call exchange.purpose) := by
  obtain ⟨call, purpose⟩ := exchange
  by_cases hgood : ∃ response, reply = .response response ∧ response.status = 200
  · obtain ⟨response, rfl, hstatus⟩ := hgood
    refine .inr (.inr ⟨response, rfl, hstatus, ?_⟩)
    simp only [receive, hexchange, judgeReply, judge, hstatus]
  · have hother : ∀ response, reply = .response response → response.status ≠ 200 :=
      fun response hresponse hstatus => hgood ⟨response, hresponse, hstatus⟩
    obtain ⟨hlearns, hdone⟩ := m.judgeReply_learns now purpose hother
    rcases hjudge : m.judgeReply now purpose reply with ⟨n, verdict⟩
    rw [hjudge] at hlearns hdone
    cases verdict with
    | done => exact absurd rfl hdone
    | fail error =>
      exact .inr (.inl ⟨n, error, hlearns, by simp only [receive, hexchange, hjudge]⟩)
    | resend =>
      have hreceive : m.receive now reply =
          { n with dialog := n.dialog.map Dialog.advance }.send call purpose := by
        simp only [receive, hexchange, hjudge]
      rcases send_cases { n with dialog := n.dialog.map Dialog.advance } call purpose with
        ⟨o, request, hsend, _, heq⟩ | ⟨o, error, hsend, _, heq⟩
      · have hlearnt := (hlearns.trans n.learns_advance).trans hsend
        have hsame : { o with exchange := some ⟨call, purpose⟩ } = o := by
          rw [← hexchange, ← hlearnt.exchange]
        exact .inl ⟨o, request, hlearnt, by rw [hreceive, heq, hsame, hlearns.settings]⟩
      · have hlearnt := (hlearns.trans n.learns_advance).trans hsend
        exact .inr (.inl ⟨o, error, hlearnt, by rw [hreceive, heq]⟩)

/-- A reply that nobody waits for does nothing. -/
theorem receive_of_no_exchange {m : Manager} (now : Instant) (reply : Reply)
    (hexchange : m.exchange = none) : m.receive now reply = (m, []) := by
  simp only [receive, hexchange]

end Manager

end ImsClient.Registration
