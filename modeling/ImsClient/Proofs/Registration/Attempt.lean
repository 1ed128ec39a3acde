import ImsClient.Proofs.Registration.Line
import ImsClient.Simulation.Client

/-!
# Outcomes of attempts

An attempt sends requests until one reply decides it. Which reply that is, and what
it makes of the attempt, is read off the replies alone: the counts of challenges
and of rejections start anew with every attempt, and nothing else that happens
meanwhile has a part in them.
-/

namespace ImsClient.Registration

/-- How an attempt ends. -/
inductive Outcome where
  | success
  | failure (fault : RegistrationFault)
deriving DecidableEq, Repr

/-- A reply, with whether the procedure can read its challenge. -/
structure Heard where
  reply : Reply
  readable : Bool
deriving DecidableEq

/-- A whole number of seconds, more than zero, in the header of a name. -/
def seconds? (response : Sip.Response) (name : String) : Option Nat :=
  (response.headerText? name).bind Text.positiveSeconds?

namespace Reply

/-- A response with this status. -/
def hasStatus (status : Nat) : Reply → Bool
  | response r => r.status == status
  | _ => false

/-- A response that the attempt is made again after, and that asks for no delay. -/
def isRejection : Reply → Bool
  | response r => Manager.isRetried r.status && (seconds? r "Retry-After").isNone
  | _ => false

end Reply

/-- How many replies are responses with this status. -/
def withStatus (status : Nat) (replies : List Heard) : Nat :=
  replies.countP (·.reply.hasStatus status)

/-- How many replies are rejections that ask for no delay. -/
def rejectionsIn (replies : List Heard) : Nat := replies.countP (·.reply.isRejection)

@[simp] theorem withStatus_singleton (status : Nat) (heard : Heard) :
    withStatus status [heard] = if heard.reply.hasStatus status then 1 else 0 :=
  List.countP_singleton

@[simp] theorem rejectionsIn_singleton (heard : Heard) :
    rejectionsIn [heard] = if heard.reply.isRejection then 1 else 0 := List.countP_singleton

/-- Responses with a status add up. -/
theorem withStatus_append (status : Nat) (first rest : List Heard) :
    withStatus status (first ++ rest) = withStatus status first + withStatus status rest :=
  List.countP_append

/-- Rejections add up. -/
theorem rejectionsIn_append (first rest : List Heard) :
    rejectionsIn (first ++ rest) = rejectionsIn first + rejectionsIn rest := List.countP_append

/-- What a reply makes of an attempt that heard some replies before, if it decides the attempt. -/
def Heard.outcome? (purpose : Purpose) (earlier : List Heard) (heard : Heard) : Option Outcome :=
  match heard.reply with
  | .failure _ | .none => some (.failure .registrationFailed)
  | .response response =>
    if response.status = 200 then some .success
    else if response.status = 401 then
      if 2 ≤ withStatus 401 earlier then some (.failure .tooMany401)
      else if heard.readable then none
      else some (.failure .unexpectedResponse)
    else if Manager.isRetried response.status then
      if (seconds? response "Retry-After").isSome then some (.failure .retryAfter)
      else if 2 ≤ rejectionsIn earlier then some (.failure .tooMany4xx5xx6xx)
      else none
    else if response.status = 302 then
      if Sip.Headers.contacts response.headers = [] then some (.failure .unexpectedResponse)
      else none
    else if response.status = 423 then
      if purpose.isUnregister ∨ seconds? response "Min-Expires" = none then
        some (.failure .unexpectedResponse)
      else none
    else some (.failure .registrationFailed)

/-- What the first reply that decides an attempt makes of it, after some replies that did not. -/
def firstOutcome? (purpose : Purpose) (earlier : List Heard) : List Heard → Option Outcome
  | [] => none
  | heard :: rest =>
    (heard.outcome? purpose earlier).or (firstOutcome? purpose (earlier ++ [heard]) rest)

/-- More replies decide an attempt only if those before did not. -/
theorem firstOutcome?_append (purpose : Purpose) (earlier heard rest : List Heard) :
    firstOutcome? purpose earlier (heard ++ rest) =
      (firstOutcome? purpose earlier heard).or (firstOutcome? purpose (earlier ++ heard) rest) := by
  induction heard generalizing earlier with
  | nil => simp [firstOutcome?]
  | cons first heard ih => simp [firstOutcome?, ih, Option.or_assoc]

/-- A single reply decides an attempt by itself. -/
theorem firstOutcome?_singleton (purpose : Purpose) (earlier : List Heard) (heard : Heard) :
    firstOutcome? purpose earlier [heard] = heard.outcome? purpose earlier := by
  simp only [firstOutcome?, Option.or_none]

/-- Only a 200 makes an attempt succeed. -/
theorem response_of_success {purpose : Purpose} {earlier : List Heard} {heard : Heard}
    (hsuccess : heard.outcome? purpose earlier = some .success) :
    ∃ response, heard.reply = .response response ∧ response.status = 200 := by
  unfold Heard.outcome? at hsuccess
  split at hsuccess
  · cases hsuccess
  · cases hsuccess
  · rename_i response hreply
    refine ⟨response, hreply, ?_⟩
    grind

/-- The notice by which an attempt reports its outcome. -/
def Outcome.isReportedBy (purpose : Purpose) : Outcome → Notice → Prop
  | success, notice => notice = if purpose.isUnregister then .terminated else .registered
  | failure fault, notice => ∃ message, notice = .failed (.registration fault message)

/-- The state that an attempt ends in. -/
def Outcome.state (purpose : Purpose) : Outcome → State
  | success => if purpose.isUnregister then .unregistered else .registered
  | failure _ => .failed

/-- A reply that leaves an attempt undecided is a challenge or a rejection, no more than the second
one, or a 302 or a 423. -/
theorem kind_of_undecided {purpose : Purpose} {earlier : List Heard} {heard : Heard}
    (hundecided : heard.outcome? purpose earlier = none) :
    withStatus 401 [heard] + rejectionsIn [heard] + withStatus 302 [heard] +
        withStatus 423 [heard] = 1 ∧
      (withStatus 401 earlier ≤ 2 → withStatus 401 (earlier ++ [heard]) ≤ 2) ∧
      (rejectionsIn earlier ≤ 2 → rejectionsIn (earlier ++ [heard]) ≤ 2) := by
  simp only [withStatus_append, rejectionsIn_append, withStatus_singleton, rejectionsIn_singleton]
  unfold Heard.outcome? at hundecided
  split at hundecided
  · cases hundecided
  · cases hundecided
  · rename_i response hreply
    simp only [hreply, Reply.hasStatus, Reply.isRejection]
    by_cases h401 : response.status = 401
    · simp [h401, Manager.isRetried] at hundecided ⊢
      grind
    · by_cases hretried : Manager.isRetried response.status = true
      · have hstatus : response.status ≠ 200 ∧ response.status ≠ 302 ∧ response.status ≠ 423 := by
          refine ⟨?_, ?_, ?_⟩ <;> rintro h <;> simp [h, Manager.isRetried] at hretried
        cases hdelay : seconds? response "Retry-After" with
        | some seconds => simp [h401, hretried, hstatus, hdelay] at hundecided
        | none =>
          simp [h401, hretried, hstatus, hdelay] at hundecided ⊢
          omega
      · simp [h401, hretried] at hundecided ⊢
        grind

/-- An undecided attempt heard at most two challenges and two rejections. -/
theorem length_of_undecided {purpose : Purpose} {replies : List Heard}
    (hundecided : firstOutcome? purpose [] replies = none) :
    replies.length ≤ 4 + withStatus 302 replies + withStatus 423 replies := by
  suffices hrest : ∀ earlier, withStatus 401 earlier ≤ 2 → rejectionsIn earlier ≤ 2 →
      firstOutcome? purpose earlier replies = none →
      replies.length + withStatus 401 earlier + rejectionsIn earlier ≤
        4 + withStatus 302 replies + withStatus 423 replies from
    hrest [] (Nat.zero_le 2) (Nat.zero_le 2) hundecided
  clear hundecided
  -- The replies heard before may use up the two challenges and two rejections, or a part of them.
  induction replies with
  | nil =>
    intro earlier hchallenges hrejections _
    simp only [List.length_nil]
    omega
  | cons heard rest ih =>
    intro earlier hchallenges hrejections hundecided
    rw [firstOutcome?, Option.or_eq_none_iff] at hundecided
    obtain ⟨hone, hchallenges', hrejections'⟩ := kind_of_undecided hundecided.1
    have hrest := ih (earlier ++ [heard]) (hchallenges' hchallenges) (hrejections' hrejections)
      hundecided.2
    rw [withStatus_append, rejectionsIn_append] at hrest
    rw [← List.singleton_append, withStatus_append, withStatus_append, List.length_append,
      List.length_singleton]
    omega

namespace Manager

/-- A reply as it is heard. -/
def hear (m : Manager) (reply : Reply) : Heard where
  reply
  readable :=
    match reply with
    | .response response => (m.procedure.read response).1.isOk
    | _ => true

/-- The reply that an exchange hears on an event. -/
def hears (m : Manager) (_ : Instant) : Event → List Heard
  | .replied reply => if m.exchange.isSome then [m.hear reply] else []
  | _ => []

/-- The replies that exchanges hear along a run, in order. -/
def heard (m : Manager) (history : History) : List Heard := m.along hears history

/-- Why the request that an event calls for could not be built. -/
def unbuilt (m : Manager) (now : Instant) : Event → List Error
  | .replied reply =>
    match m.exchange with
    | none => []
    | some exchange =>
      match m.judgeReply now exchange.purpose reply with
      | (n, .resend) =>
        match ({ n with dialog := n.dialog.map Dialog.advance }.compose exchange.purpose).1 with
        | .ok _ => []
        | .error error => [error]
      | _ => []
  | _ => []

/-- An attempt is under way that heard these replies and was not decided by them. -/
structure Attempting (m : Manager) (call : CallId) (purpose : Purpose) (earlier : List Heard) :
    Prop where
  exchange : m.exchange = some ⟨call, purpose⟩
  state : m.state = purpose.state
  challenges : m.challenges = withStatus 401 earlier
  rejections : m.rejections = rejectionsIn earlier
  undecided : firstOutcome? purpose [] earlier = none

variable {m : Manager} {call : CallId} {purpose : Purpose} {earlier : List Heard}

/-! ### Verdicts -/

/-- A manager and a verdict are what a reply makes of an attempt with this outcome: with none yet,
another request is due, and the reply is counted if it is a challenge or a rejection. -/
def Judged (m : Manager) (heard : Heard) (judged : Manager × Verdict) : Option Outcome → Prop
  | none => judged.2 = .resend ∧ judged.1.challenges = m.challenges + withStatus 401 [heard] ∧
      judged.1.rejections = m.rejections + rejectionsIn [heard]
  | some .success => judged.2 = .done
  | some (.failure fault) => ∃ message, judged.2 = .fail (.registration fault message)

/-- A failure is judged as it says. -/
theorem judged_failure (n : Manager) (heard : Heard) (fault : RegistrationFault)
    (message : String) :
    m.Judged heard (n, failure fault message) (some (.failure fault)) := ⟨message, rfl⟩

/-- A 302 fails the attempt unless it names a place to go on to. -/
theorem redirect_judged {heard : Heard} {response : Sip.Response}
    (hreply : heard.reply = .response response) (hstatus : response.status = 302) :
    m.Judged heard (m.redirect response) (heard.outcome? purpose earlier) := by
  cases hcontacts : Sip.Headers.contacts response.headers with
  | nil =>
    simp only [Heard.outcome?, hreply, hstatus, redirect, hcontacts]
    exact judged_failure ..
  | cons contact rest =>
    simp [Heard.outcome?, hreply, hstatus, redirect, hcontacts, Judged,
      Reply.hasStatus, Reply.isRejection, isRetried]

/-- A 401 fails the attempt if it is the third one or its challenge cannot be read. -/
theorem answerChallenge_judged {response : Sip.Response} (hstatus : response.status = 401)
    (hchallenges : m.challenges = withStatus 401 earlier) :
    m.Judged (m.hear (.response response)) (m.answerChallenge response)
      ((m.hear (.response response)).outcome? purpose earlier) := by
  by_cases hmany : 2 ≤ withStatus 401 earlier
  · have hmax : maxFailures ≤ m.challenges + 1 := by simp only [maxFailures]; omega
    simp only [Heard.outcome?, hear, hstatus, hmany, answerChallenge, hmax, if_true]
    exact judged_failure ..
  · have hmax : ¬ maxFailures ≤ m.challenges + 1 := by simp only [maxFailures]; omega
    rcases hread : m.procedure.read response with ⟨result, procedure⟩
    cases result with
    | ok =>
      simp [Heard.outcome?, hear, hstatus, hmany, answerChallenge, hmax, hread, Except.isOk,
        Except.toBool, Judged, Reply.hasStatus, Reply.isRejection, isRetried]
    | error e =>
      simp only [Heard.outcome?, hear, hstatus, hmany, answerChallenge, hmax, hread, Except.isOk,
        Except.toBool, if_false]
      exact judged_failure ..

/-- A 423 fails the attempt unless it asks for a lifetime and the attempt is to register. -/
theorem adoptMinimum_judged {heard : Heard} {response : Sip.Response}
    (hreply : heard.reply = .response response) (hstatus : response.status = 423) :
    m.Judged heard
      (if purpose.isUnregister then (m, failure .unexpectedResponse "423 to un-REGISTER")
        else m.adoptMinimum response)
      (heard.outcome? purpose earlier) := by
  by_cases hpurpose : purpose.isUnregister = true
  · simp only [Heard.outcome?, hreply, hstatus, hpurpose, if_true]
    exact judged_failure ..
  · cases hminimum : seconds? response "Min-Expires" with
    | none =>
      have hminimum' := hminimum
      unfold seconds? at hminimum'
      simp only [Heard.outcome?, hreply, hstatus, hpurpose, hminimum, adoptMinimum, hminimum']
      exact judged_failure ..
    | some seconds =>
      have hminimum' := hminimum
      unfold seconds? at hminimum'
      simp [Heard.outcome?, hreply, hstatus, hpurpose, hminimum, adoptMinimum, hminimum', Judged,
        Reply.hasStatus, Reply.isRejection, isRetried]

/-- A rejection fails the attempt if it asks for a delay or is the third one that does not. -/
theorem retry_judged {heard : Heard} {response : Sip.Response}
    (hreply : heard.reply = .response response) (hretried : isRetried response.status = true)
    (hrejections : m.rejections = rejectionsIn earlier) :
    m.Judged heard (m.retry response) (heard.outcome? purpose earlier) := by
  have h200 : response.status ≠ 200 := by rintro h; simp [h, isRetried] at hretried
  have h401 : response.status ≠ 401 := by rintro h; simp [h, isRetried] at hretried
  cases hdelay : seconds? response "Retry-After" with
  | some seconds =>
    have hdelay' := hdelay
    unfold seconds? at hdelay'
    simp only [Heard.outcome?, hreply, h200, h401, hretried, hdelay, retry, hdelay', if_false,
      if_true, Option.isSome_some]
    exact judged_failure ..
  | none =>
    have hdelay' := hdelay
    unfold seconds? at hdelay'
    by_cases hmany : 2 ≤ rejectionsIn earlier
    · have hmax : maxFailures ≤ m.rejections + 1 := by simp only [maxFailures]; omega
      simp only [Heard.outcome?, hreply, h200, h401, hretried, hdelay, hmany, retry, hdelay', hmax,
        if_false, if_true, Option.isSome_none, Bool.false_eq_true]
      exact judged_failure ..
    · have hmax : ¬ maxFailures ≤ m.rejections + 1 := by simp only [maxFailures]; omega
      simp [Heard.outcome?, hreply, h200, h401, hretried, hdelay, hmany, retry, hdelay', hmax,
        Judged, Reply.hasStatus, Reply.isRejection]

/-- **Every reply is judged by the replies before it.** If the counts are those of the replies that
the attempt heard, then what a reply makes of the attempt is what those replies and it decide. -/
theorem judgeReply_judged (purpose : Purpose) (now : Instant) (reply : Reply)
    (hchallenges : m.challenges = withStatus 401 earlier)
    (hrejections : m.rejections = rejectionsIn earlier) :
    m.Judged (m.hear reply) (m.judgeReply now purpose reply)
      ((m.hear reply).outcome? purpose earlier) := by
  cases reply with
  | failure error => exact judged_failure ..
  | none => exact judged_failure ..
  | response response =>
    simp only [judgeReply]
    unfold judge
    split
    · rename_i hstatus
      simp [Heard.outcome?, hear, hstatus, Judged]
    · exact redirect_judged rfl ‹_›
    · exact answerChallenge_judged ‹_› hchallenges
    · exact adoptMinimum_judged rfl ‹_›
    -- Any other status either is one to try again after or fails the attempt.
    · rename_i h200 h302 h401 h423
      by_cases hretried : isRetried response.status = true
      · simp only [hretried, if_true]
        exact retry_judged rfl hretried hrejections
      · simp only [Heard.outcome?, hear, if_neg h200, if_neg h302, if_neg h401, if_neg h423,
          if_neg hretried]
        exact judged_failure ..

/-! ### The course of an attempt -/

/-- To compose a request counts nothing. -/
theorem compose_counts (m : Manager) (purpose : Purpose) :
    (m.compose purpose).2.challenges = m.challenges ∧
      (m.compose purpose).2.rejections = m.rejections := by
  obtain ⟨procedure, supply, heq⟩ := m.compose_uses purpose
  rw [heq]
  exact ⟨rfl, rfl⟩

/-- A manager whose next request can be built sends it, and its call holds the lock. -/
theorem send_of_built (call : CallId) (hbuilt : (m.compose purpose).1.isOk = true) :
    ∃ n request, m.Learns n ∧ n.challenges = m.challenges ∧ n.rejections = m.rejections ∧
      m.send call purpose =
        ({ n with exchange := some ⟨call, purpose⟩ },
          [.send request m.settings.transactionTime]) := by
  have hcounts := m.compose_counts purpose
  rcases m.send_cases call purpose with
    ⟨n, request, hlearns, hcompose, heq⟩ | ⟨n, error, hlearns, hcompose, heq⟩
  · rw [hcompose] at hcounts
    exact ⟨n, request, hlearns, hcounts.1, hcounts.2, heq⟩
  · rw [hcompose] at hbuilt
    cases hbuilt

/-- An attempt begins with its first request, and with all counts at zero. -/
theorem startExchange_attempting (m : Manager) (call : CallId) (purpose : Purpose)
    (hbuilt : ((m.prepare purpose).compose purpose).1.isOk = true) :
    (m.startExchange call purpose).1.Attempting call purpose [] ∧
      (m.startExchange call purpose).1.settings = m.settings ∧
      ∃ request, (m.startExchange call purpose).2 =
        [.send request m.settings.transactionTime] := by
  have hprepared := m.prepare_prepared purpose
  obtain ⟨n, request, hlearns, hchallenges, hrejections, heq⟩ := send_of_built call hbuilt
  rw [startExchange_eq, heq, hprepared.settings]
  refine ⟨⟨rfl, ?_, ?_, ?_, rfl⟩, hlearns.settings.trans hprepared.settings, request, rfl⟩
  · exact hlearns.state.trans hprepared.state
  · exact hchallenges.trans hprepared.challenges
  · exact hrejections.trans hprepared.rejections

/-- A reply that decides nothing is answered by the next request. -/
theorem Attempting.receive (hm : m.Attempting call purpose earlier) (now : Instant) (reply : Reply)
    (hundecided : (m.hear reply).outcome? purpose earlier = none)
    (hbuilt : m.unbuilt now (.replied reply) = []) :
    (m.receive now reply).1.Attempting call purpose (earlier ++ [m.hear reply]) ∧
      (m.receive now reply).1.settings = m.settings ∧
      ∃ request, (m.receive now reply).2 = [.send request m.settings.transactionTime] := by
  have hjudged := judgeReply_judged purpose now reply hm.challenges hm.rejections
  have hother : ∀ response, reply = .response response → response.status ≠ 200 := by
    rintro response rfl hstatus
    simp [Heard.outcome?, hear, hstatus] at hundecided
  have hlearns := (m.judgeReply_learns now purpose hother).1
  rcases hjudge : m.judgeReply now purpose reply with ⟨n, verdict⟩
  rw [hundecided, hjudge] at hjudged
  rw [hjudge] at hlearns
  obtain ⟨hresend, hchallenges, hrejections⟩ := hjudged
  subst hresend
  simp only [unbuilt, hm.exchange, hjudge] at hbuilt
  have hnext :
      ({ n with dialog := n.dialog.map Dialog.advance }.compose purpose).1.isOk = true := by
    split at hbuilt
    · rename_i hcompose
      rw [hcompose]
      rfl
    · cases hbuilt
  obtain ⟨o, request, hsent, hchallenges', hrejections', heq⟩ := send_of_built call hnext
  have hreceive : m.receive now reply =
      ({ o with exchange := some ⟨call, purpose⟩ },
        [.send request m.settings.transactionTime]) := by
    rw [← hlearns.settings]
    refine Eq.trans ?_ heq
    simp only [Manager.receive, hm.exchange, hjudge]
  rw [hreceive]
  refine ⟨⟨rfl, ?_, ?_, ?_, ?_⟩, hsent.settings.trans hlearns.settings, request, rfl⟩
  · exact hsent.state.trans (hlearns.state.trans hm.state)
  · rw [withStatus_append, ← hm.challenges]
    exact hchallenges'.trans hchallenges
  · rw [rejectionsIn_append, ← hm.rejections]
    exact hrejections'.trans hrejections
  · rw [firstOutcome?_append, hm.undecided, List.nil_append, firstOutcome?_singleton, hundecided]
    rfl

/-- A reply that decides an attempt ends it with one notice, which reports the outcome. -/
theorem Attempting.ends (hm : m.Attempting call purpose earlier) (now : Instant) (reply : Reply)
    {outcome : Outcome} (hdecides : (m.hear reply).outcome? purpose earlier = some outcome) :
    (m.receive now reply).1.exchange = none ∧
      (m.receive now reply).1.state = outcome.state purpose ∧
      ∃ notice, (m.receive now reply).2 = [.tell call notice] ∧
        outcome.isReportedBy purpose notice := by
  have hjudged := judgeReply_judged purpose now reply hm.challenges hm.rejections
  rcases hjudge : m.judgeReply now purpose reply with ⟨n, verdict⟩
  rw [hdecides, hjudge] at hjudged
  cases outcome with
  | failure fault =>
    obtain ⟨message, hfail⟩ := hjudged
    subst hfail
    have hreceive : m.receive now reply = n.fail call purpose (.registration fault message) := by
      simp only [Manager.receive, hm.exchange, hjudge]
    rw [hreceive]
    exact ⟨rfl, rfl, _, rfl, message, rfl⟩
  | success =>
    obtain rfl : verdict = .done := hjudged
    have hreceive : m.receive now reply = n.succeed call purpose := by
      simp only [Manager.receive, hm.exchange, hjudge]
    obtain ⟨response, rfl, hstatus⟩ := response_of_success hdecides
    simp only [judgeReply, judge, hstatus, Prod.mk.injEq, and_true] at hjudge
    rw [hreceive, ← hjudge]
    cases purpose <;> exact ⟨rfl, rfl, _, rfl, rfl⟩

/-- Another manager stands by an exchange just as a manager does. -/
structure StandsBy (m n : Manager) : Prop where
  settings : n.settings = m.settings
  exchange : n.exchange = m.exchange
  state : n.state = m.state
  challenges : n.challenges = m.challenges
  rejections : n.rejections = m.rejections

end Manager

open Manager

/-- While an exchange is under way, whatever else happens leaves it alone, and nothing is sent or
told. -/
theorem Moves.standsBy {m n : Manager} {begun : List Origin} {joined : List Waiter}
    {served : List Turn} {effects : List Effect} (hmoves : Moves m begun joined served n effects)
    (hexchange : m.exchange.isSome = true) :
    m.StandsBy n ∧ effects.filterMap Effect.sent? = [] ∧ effects.filterMap Effect.told? = [] := by
  induction hmoves with
  | refl m => exact ⟨⟨rfl, rfl, rfl, rfl, rfl⟩, rfl, rfl⟩
  | cons hmove _ ih =>
    cases hmove with
    | arrive | fire | defer | conclude | redeem | proceed =>
      obtain ⟨hn, hsent, htold⟩ := ih hexchange
      refine ⟨⟨hn.settings, hn.exchange, hn.state, hn.challenges, hn.rejections⟩, ?_, ?_⟩
      · simpa [Effect.sent?] using hsent
      · simpa [Effect.told?] using htold
    | decline _ _ _ hfree | pass _ _ hfree | work _ _ _ hfree =>
      rw [hfree] at hexchange
      cases hexchange

namespace Manager

/-- What an attempt has done so far: it has sent some requests, awaits the reply to each for the
transaction time, and gave no notice. -/
structure Trying (m : Manager) (requests : Nat) (effects : List Effect) : Prop where
  sent : (effects.filterMap Effect.sent?).length = requests
  patient : ∀ patience ∈ effects.filterMap Effect.patience?, patience = m.settings.transactionTime
  silent : effects.filterMap Effect.told? = []

/-- To send one request is to try once. -/
theorem trying_send (m : Manager) (request : Sip.Request) :
    m.Trying 1 [.send request m.settings.transactionTime] where
  sent := rfl
  patient patience hpatience := by simpa [Effect.patience?] using hpatience
  silent := rfl

/-- What neither sends nor tells anything does not count. -/
theorem trying_of_silent {effects : List Effect} (hsent : effects.filterMap Effect.sent? = [])
    (htold : effects.filterMap Effect.told? = []) (m : Manager) : m.Trying 0 effects where
  sent := by rw [hsent, List.length_nil]
  patient := by
    have hlength := Effect.length_patience? effects
    rw [hsent, List.length_nil, List.length_eq_zero_iff] at hlength
    simp [hlength]
  silent := htold

/-- What is done one after the other is done together. -/
theorem Trying.append {m n : Manager} {requests more : Nat} {effects later : List Effect}
    (h : m.Trying requests effects) (hlater : n.Trying more later)
    (hsettings : n.settings = m.settings) : m.Trying (requests + more) (effects ++ later) where
  sent := by rw [List.filterMap_append, List.length_append, h.sent, hlater.sent]
  patient patience hpatience := by
    rw [List.filterMap_append, List.mem_append] at hpatience
    rw [← hsettings]
    exact hpatience.elim (fun h' => hsettings ▸ h.patient patience h') (hlater.patient patience)
  silent := by rw [List.filterMap_append, h.silent, hlater.silent, List.append_nil]

/-- One more event that decides nothing leaves an attempt under way, with one request more if the
event is a reply. -/
theorem Attempting.step {m : Manager} {call : CallId} {purpose : Purpose} {earlier : List Heard}
    (hm : m.Attempting call purpose earlier) (now : Instant) (event : Event)
    (hbuilt : m.unbuilt now event = [])
    (hundecided : firstOutcome? purpose [] (earlier ++ m.hears now event) = none) :
    (m.step now event).1.Attempting call purpose (earlier ++ m.hears now event) ∧
      (m.step now event).1.settings = m.settings ∧
      m.Trying (m.hears now event).length (m.step now event).2 := by
  have hexchange : m.exchange.isSome = true := by rw [hm.exchange]; rfl
  by_cases hreply : ∃ reply, event = .replied reply
  · obtain ⟨reply, rfl⟩ := hreply
    simp only [hears, hexchange, if_true] at hundecided ⊢
    rw [firstOutcome?_append, hm.undecided, List.nil_append, firstOutcome?_singleton] at hundecided
    obtain ⟨hnext, hsettings, request, heffects⟩ := hm.receive now reply hundecided hbuilt
    refine ⟨hnext, hsettings, ?_⟩
    simp only [Manager.step, heffects]
    exact m.trying_send request
  · have hother : ∀ reply, event ≠ .replied reply := fun reply h => hreply ⟨reply, h⟩
    have hhears : m.hears now event = [] := by
      unfold hears
      split
      · exact absurd rfl (hother _)
      · rfl
    obtain ⟨hn, hsent, htold⟩ := (m.moves_step now hother).standsBy hexchange
    rw [hhears, List.append_nil]
    refine ⟨⟨?_, ?_, ?_, ?_, hm.undecided⟩, hn.settings, trying_of_silent hsent htold m⟩
    · exact hn.exchange.trans hm.exchange
    · exact hn.state.trans hm.state
    · exact hn.challenges.trans hm.challenges
    · exact hn.rejections.trans hm.rejections

/-- As long as no reply decides it, an attempt is under way, has sent one request for each reply
and gave no notice. -/
theorem Attempting.after {m : Manager} {call : CallId} {purpose : Purpose}
    (hm : m.Attempting call purpose []) (history : History)
    (hbuilt : m.along unbuilt history = [])
    (hundecided : firstOutcome? purpose [] (m.heard history) = none) :
    (m.after history).Attempting call purpose (m.heard history) ∧
      (m.after history).settings = m.settings ∧
      m.Trying (m.heard history).length (m.trace history) := by
  refine after_induction
    (p := fun history n => m.along unbuilt history = [] →
      firstOutcome? purpose [] (m.heard history) = none →
        n.Attempting call purpose (m.heard history) ∧ n.settings = m.settings ∧
          m.Trying (m.heard history).length (m.trace history))
    m (fun _ _ => ⟨hm, rfl, trying_of_silent rfl rfl m⟩) ?_ history hbuilt hundecided
  intro history now event ih hbuilt hundecided
  rw [along_concat, List.append_eq_nil_iff] at hbuilt
  simp only [heard, trace, along_concat] at ih hundecided ⊢
  have hbefore : firstOutcome? purpose [] (m.along hears history) = none := by
    rw [firstOutcome?_append, Option.or_eq_none_iff] at hundecided
    exact hundecided.1
  obtain ⟨hattempting, hsettings, htrying⟩ := ih hbuilt.1 hbefore
  obtain ⟨hnext, hsettings', htrying'⟩ := hattempting.step now event hbuilt.2 hundecided
  refine ⟨hnext, hsettings'.trans hsettings, ?_⟩
  rw [List.length_append]
  exact htrying.append htrying' hsettings

/-- A reply that comes after the transaction timeout is not heard any more. -/
theorem replyOf_late (scripted : Simulation.ScriptedReply) (request : Sip.Request) {patience : Nat}
    (hlate : patience < scripted.delay) :
    Simulation.ClientRun.World.replyOf (scripted.arrival request patience).2 = .none := by
  rw [scripted.arrival_late request hlate]
  rfl

/-- **The first reply that decides an attempt ends it.** Whatever else happens meanwhile, an attempt
whose requests can be built is under way as long as no reply has decided it: it has sent one request
more than it heard replies, at most five and one more for each 302 and 423, and gave no notice. The
first reply that decides it gives the lock back and is reported by the only notice of the attempt.
Each request awaits its reply for the transaction time, and a reply that is later than that decides
the attempt as one that failed. -/
theorem attempt_ends_at_first_outcome (m : Manager) (call : CallId) (purpose : Purpose)
    (history : History) {n : Manager} {effects : List Effect}
    (hstart : m.startExchange call purpose = (n, effects))
    (hfirst : ((m.prepare purpose).compose purpose).1.isOk = true)
    (hlater : n.along unbuilt history = [])
    (hundecided : firstOutcome? purpose [] (n.heard history) = none) :
    (n.after history).exchange = some ⟨call, purpose⟩ ∧
      ((effects ++ n.trace history).filterMap Effect.sent?).length = (n.heard history).length + 1 ∧
      ((effects ++ n.trace history).filterMap Effect.sent?).length ≤
        5 + withStatus 302 (n.heard history) + withStatus 423 (n.heard history) ∧
      (effects ++ n.trace history).filterMap Effect.told? = [] ∧
      (∀ now reply outcome,
        ((n.after history).hear reply).outcome? purpose (n.heard history) = some outcome →
          ((n.after history).step now (.replied reply)).1.exchange = none ∧
          ((n.after history).step now (.replied reply)).1.state = outcome.state purpose ∧
          ∃ notice, ((n.after history).step now (.replied reply)).2 = [.tell call notice] ∧
            outcome.isReportedBy purpose notice) ∧
      ∀ patience ∈ (effects ++ n.trace history).filterMap Effect.patience?,
        patience = m.settings.transactionTime ∧
          ∀ (scripted : Simulation.ScriptedReply) (request : Sip.Request),
            patience.wholeMilliseconds < scripted.delay →
              ((n.after history).hear (Simulation.ClientRun.World.replyOf
                (scripted.arrival request patience.wholeMilliseconds).2)).outcome? purpose
                  (n.heard history) = some (.failure .registrationFailed) := by
  obtain ⟨hbegun, hsettings, request, heffects⟩ := m.startExchange_attempting call purpose hfirst
  rw [hstart] at hbegun hsettings heffects
  dsimp only at hbegun hsettings heffects
  obtain ⟨hattempting, _, htrying⟩ := hbegun.after history hlater hundecided
  have hall : m.Trying (1 + (n.heard history).length) (effects ++ n.trace history) := by
    rw [heffects]
    exact (m.trying_send request).append htrying hsettings
  have hcount : ((effects ++ n.trace history).filterMap Effect.sent?).length =
      (n.heard history).length + 1 := hall.sent.trans (Nat.add_comm 1 _)
  refine ⟨hattempting.exchange, hcount, ?_, hall.silent, ?_, ?_⟩
  · have hlength := length_of_undecided hundecided
    omega
  · intro now reply outcome hdecides
    exact hattempting.ends now reply hdecides
  · refine fun patience hpatience => ⟨hall.patient patience hpatience, ?_⟩
    intro scripted request hlate
    rw [replyOf_late scripted request hlate]
    rfl

/-- An example: an attempt is challenged, rejected and challenged again, and meanwhile somebody asks
to un-REGISTER. -/
def sampleRetried : History :=
  [(0, .replied (.response { status := 401 })), (1, .replied (.response { status := 503 })),
    (2, .called 1 .unregister), (3, .replied (.response { status := 401 }))]

/-- In the example, the attempt has sent four requests, and one more challenge ends it. -/
theorem third_challenge_ends_sample :
    (((sample.startExchange 0 .register).2 ++ (sample.startExchange 0 .register).1.trace
        sampleRetried).filterMap Effect.sent?).length = 4 ∧
      ∃ notice, (((sample.startExchange 0 .register).1.after sampleRetried).step 4
          (.replied (.response { status := 401 }))).2 = [.tell 0 notice] ∧
        (Outcome.failure .tooMany401).isReportedBy .register notice := by
  have hattempt := attempt_ends_at_first_outcome sample 0 .register sampleRetried
    (Prod.eta (sample.startExchange 0 .register)).symm
    (by decide +kernel) (by decide +kernel) (by decide +kernel)
  have hheard : ((sample.startExchange 0 .register).1.heard sampleRetried).length = 3 := by
    decide +kernel
  refine ⟨hattempt.2.1.trans (by rw [hheard]), ?_⟩
  exact (hattempt.2.2.2.2.1 4 _ (.failure .tooMany401) (by decide +kernel)).2.2

end Manager

end ImsClient.Registration
