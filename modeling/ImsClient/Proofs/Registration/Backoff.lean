import ImsClient.Proofs.Registration.Failure
import ImsClient.Proofs.Registration.Information

/-!
# For how long to wait after a failure

A failure may ask the client to wait, and the manager keeps the delay that was asked for.
A registration clears it, and a failure that asks for a delay replaces it; a failure that
asks for none leaves it. So after a failure the manager tells the delay of that failure,
except where an earlier failure asked for one and no registration came in between.
-/

namespace ImsClient.Registration

/-- How an attempt ended, as the listener was told: with a registration, or with a failure and the
delay that it asks for. -/
inductive Ending where
  | registered
  | failed (delay : Option Nat)
deriving DecidableEq

/-- The delay that is kept after an ending. -/
def Ending.keep (kept : Option Nat) : Ending → Option Nat
  | registered => none
  | failed delay => delay.or kept

/-- The delay that an event asks for: that of the reply, if it is one. -/
def Event.delay? : Event → Option Nat
  | replied reply => reply.delay?
  | _ => none

/-- The ending that an effect tells of, given the delay that was asked for. -/
def Effect.ending? (delay : Option Nat) : Effect → Option Ending
  | tell _ .registered => some .registered
  | tell _ (.failed _) => some (.failed delay)
  | _ => none

namespace Ending

/-- Failures that ask for no delay leave the one that is kept. -/
theorem foldl_keep_of_silent {endings : List Ending} (kept : Option Nat)
    (hsilent : ∀ ending ∈ endings, ending = failed none) : endings.foldl keep kept = kept := by
  induction endings with
  | nil => rfl
  | cons ending endings ih =>
    obtain ⟨rfl, hrest⟩ := List.forall_mem_cons.mp hsilent
    exact ih hrest

/-- No delay is kept exactly if a registration came after every failure that asked for one. -/
theorem foldl_keep_eq_none_iff (endings : List Ending) :
    endings.foldl keep none = none ↔
      ∀ before asked since, endings = before ++ failed (some asked) :: since →
        registered ∈ since := by
  induction endings using List.reverseRecOn with
  | nil => simp
  | append_singleton endings ending ih =>
    rw [List.foldl_append]
    constructor
    · intro hnone before asked since hsplit
      rcases split_concat hsplit with ⟨-, -, rfl⟩ | ⟨rest, rfl, hwhole⟩
      · cases hnone
      · cases ending with
        | registered => simp
        | failed delay =>
          rw [List.foldl_cons, List.foldl_nil, keep, Option.or_eq_none_iff] at hnone
          exact List.mem_append_left _ (ih.mp hnone.2 before asked rest hwhole)
    · intro hcleared
      cases ending with
      | registered => rfl
      | failed delay =>
        have hdelay : delay = none := by
          rw [Option.eq_none_iff_forall_ne_some]
          rintro asked rfl
          simpa using hcleared endings asked [] rfl
        subst hdelay
        refine ih.mpr fun before asked since hsplit => ?_
        simpa using hcleared before asked (since ++ [failed none]) (by simp [hsplit])

/-- The delay that a failure asked for is kept while no other failure asks for one and no
registration comes. -/
theorem foldl_keep_of_asked (before : List Ending) (asked : Nat) {since : List Ending}
    (hsilent : ∀ ending ∈ since, ending = failed none) :
    (before ++ failed (some asked) :: since).foldl keep none = some asked := by
  rw [List.foldl_append, List.foldl_cons, foldl_keep_of_silent _ hsilent]
  rfl

end Ending

namespace Manager

/-- The endings that the listener is told of on an event. -/
def ends (m : Manager) (now : Instant) (event : Event) : List Ending :=
  (m.step now event).2.filterMap (Effect.ending? event.delay?)

/-- The endings that the listener is told of along a run, in order. -/
def endings (m : Manager) (history : History) : List Ending := m.along ends history

/-- Some effects tell of no failure that asks for a delay, and of no registration. -/
structure AsksNothing (effects : List Effect) : Prop where
  fault : ∀ error ∈ effects.filterMap Effect.failure?, error.registrationFault? ≠ some .retryAfter
  ending : ∀ ending ∈ effects.filterMap (Effect.ending? none), ending = .failed none

/-- Nothing asks for nothing. -/
theorem asksNothing_nil : AsksNothing [] := ⟨by simp, by simp⟩

/-- Effects one after another ask for nothing if each of them does not. -/
theorem AsksNothing.append {effects effects' : List Effect} (h : AsksNothing effects)
    (h' : AsksNothing effects') : AsksNothing (effects ++ effects') where
  fault := by
    rw [List.filterMap_append]
    exact List.forall_mem_append.mpr ⟨h.fault, h'.fault⟩
  ending := by
    rw [List.filterMap_append]
    exact List.forall_mem_append.mpr ⟨h.ending, h'.ending⟩

/-- A failure asks for nothing if its code does not say so. -/
theorem asksNothing_failed (call : CallId) {error : Error}
    (hfault : error.registrationFault? ≠ some .retryAfter) :
    AsksNothing [.tell call (.failed error)] :=
  ⟨by simpa [Effect.failure?] using hfault, by simp [Effect.ending?]⟩

variable {m : Manager} {now : Instant} {reply : Reply}

/-! ### What asks for a delay -/

/-- A reply that asks for a delay fails the attempt with the code for that. -/
theorem judgeReply_of_delay (m : Manager) (now : Instant) (purpose : Purpose) {seconds : Nat}
    (hdelay : reply.delay? = some seconds) :
    ∃ error, (m.judgeReply now purpose reply).2 = .fail error ∧
      error.registrationFault? = some .retryAfter := by
  cases reply with
  | failure | none => cases hdelay
  | response response =>
    simp only [Reply.delay?, Option.ite_none_right_eq_some, seconds?] at hdelay
    obtain ⟨hretried, hseconds⟩ := hdelay
    simp only [judgeReply]
    unfold judge
    split
    · next hstatus => simp [hstatus, isRetried] at hretried
    · next hstatus => simp [hstatus, isRetried] at hretried
    · next hstatus => simp [hstatus, isRetried] at hretried
    · next hstatus => simp [hstatus, isRetried] at hretried
    · rw [if_pos hretried]
      simp only [retry, hseconds]
      exact ⟨_, rfl, rfl⟩

/-- No other reply fails the attempt with that code. -/
theorem judgeReply_of_no_delay (m : Manager) (now : Instant) (purpose : Purpose) {error : Error}
    (hdelay : reply.delay? = none) (hfail : (m.judgeReply now purpose reply).2 = .fail error) :
    error.registrationFault? ≠ some .retryAfter := by
  have hcoded {fault : RegistrationFault} {message : String} (hother : fault ≠ .retryAfter)
      (h : failure fault message = .fail error) :
      error.registrationFault? ≠ some .retryAfter := by
    cases h
    simpa [Error.registrationFault?] using hother
  cases reply with
  | failure | none => exact hcoded (by decide) hfail
  | response response =>
    simp only [judgeReply] at hfail
    unfold judge at hfail
    split at hfail
    · cases hfail
    · unfold redirect at hfail
      split at hfail
      · exact hcoded (by decide) hfail
      · cases hfail
    · unfold answerChallenge at hfail
      dsimp only at hfail
      split at hfail
      · exact hcoded (by decide) hfail
      · split at hfail
        · cases hfail
        · exact hcoded (by decide) hfail
    · split at hfail
      · exact hcoded (by decide) hfail
      · unfold adoptMinimum at hfail
        split at hfail
        · exact hcoded (by decide) hfail
        · cases hfail
    · split at hfail
      · next hretried =>
        simp only [Reply.delay?, hretried, if_true, seconds?] at hdelay
        simp only [retry, hdelay] at hfail
        split at hfail
        · exact hcoded (by decide) hfail
        · cases hfail
      · exact hcoded (by decide) hfail

/-- A request that cannot be composed asks for no delay. -/
theorem compose_fault_ne (m : Manager) (purpose : Purpose) {error : Error}
    (herror : (m.compose purpose).1 = .error error) :
    error.registrationFault? ≠ some .retryAfter := by
  unfold compose at herror
  cases hdialog : m.dialog with
  | none =>
    rw [hdialog] at herror
    cases herror
    simp [Error.registrationFault?]
  | some dialog =>
    simp only [hdialog] at herror
    generalize (if purpose.isUnregister = true then 0 else m.expiry) = expiry at herror
    cases hmade : dialog.register m.bound expiry m.settings.instanceId m.settings.featureTags
        m.supply with
    | error e =>
      rw [hmade] at herror
      cases herror
      simp [(dialog.reads_register m.bound expiry _ _ m.supply).uncoded error hmade]
    | ok made =>
      simp only [hmade] at herror
      split at herror
      · cases herror
      · cases herror
        simp [Error.registrationFault?]

/-- To send a request asks for nothing. -/
theorem send_asksNothing (m : Manager) (call : CallId) (purpose : Purpose) :
    AsksNothing (m.send call purpose).2 := by
  rcases m.send_cases call purpose with ⟨n, _, _, _, heq⟩ | ⟨n, error, _, hcompose, heq⟩
  · rw [heq]
    exact ⟨by simp [Effect.failure?], by simp [Effect.ending?]⟩
  · rw [heq]
    exact asksNothing_failed call (m.compose_fault_ne purpose (congrArg Prod.fst hcompose))

end Manager

open Manager

/-- A move asks for nothing. -/
theorem Move.asksNothing {m n : Manager} {begun : List Origin} {joined : List Waiter}
    {served : List Turn} {effects : List Effect} (hmove : Move m begun joined served n effects) :
    AsksNothing effects := by
  cases hmove with
  | arrive | fire | redeem | proceed | pass => exact asksNothing_nil
  | defer | conclude | decline => exact ⟨by simp [Effect.failure?], by simp [Effect.ending?]⟩
  | work first rest work =>
    cases work with
    | stop =>
      exact ⟨by simp [perform, Manager.tell, Effect.failure?],
        by simp [perform, Manager.tell, Effect.ending?]⟩
    | exchange purpose =>
      simp only [perform]
      rw [startExchange_eq]
      exact send_asksNothing _ first.call purpose

/-- Nor do moves one after another. -/
theorem Moves.asksNothing {m n : Manager} {begun : List Origin} {joined : List Waiter}
    {served : List Turn} {effects : List Effect} (hmoves : Moves m begun joined served n effects) :
    AsksNothing effects := by
  induction hmoves with
  | refl => exact asksNothing_nil
  | cons hmove _ ih => exact hmove.asksNothing.append ih

namespace Manager

variable {m : Manager} {now : Instant} {reply : Reply}

/-- How an event accounts for the delay that is kept: it is what the endings that are told of leave,
and a failure carries the code for a delay exactly if the event asks for one. -/
structure AccountsDelay (delay : Option Nat) (m : Manager) (result : Manager × List Effect) :
    Prop where
  kept : result.1.info.retryAfter =
    (result.2.filterMap (Effect.ending? delay)).foldl Ending.keep m.info.retryAfter
  coded : ∀ error ∈ result.2.filterMap Effect.failure?,
    (error.registrationFault? = some .retryAfter ↔ delay.isSome = true)

/-- Where nothing is asked for, the delay is kept. -/
theorem AsksNothing.accounts {result : Manager × List Effect} (h : AsksNothing result.2)
    (hinfo : result.1.info.retryAfter = m.info.retryAfter) : AccountsDelay none m result where
  kept := by rw [Ending.foldl_keep_of_silent _ h.ending, hinfo]
  coded error herror := by simpa using h.fault error herror

/-- A reply that an exchange waits for accounts for the delay. -/
theorem receive_accountsDelay {exchange : Exchange} (hexchange : m.exchange = some exchange) :
    AccountsDelay reply.delay? m (m.receive now reply) := by
  obtain ⟨call, purpose⟩ := exchange
  by_cases hgood : ∃ response, reply = .response response ∧ response.status = 200
  · obtain ⟨response, rfl, hstatus⟩ := hgood
    cases purpose with
    | register =>
      have hreceive := (step_of_grant now hexchange hstatus).1
      simp only [step] at hreceive
      rw [hreceive]
      exact ⟨rfl, by simp [succeed, tell, Effect.failure?]⟩
    | unregister deferred =>
      have hreceive := (step_of_release now hexchange hstatus).1
      simp only [step] at hreceive
      rw [hreceive]
      exact ⟨rfl, by simp [succeed, tell, Effect.failure?]⟩
  · have hother : ∀ response, reply = .response response → response.status ≠ 200 :=
      fun response hresponse hstatus => hgood ⟨response, hresponse, hstatus⟩
    obtain ⟨-, hinfo, -⟩ := receive_other now hexchange hother
    have hkept : (m.receive now reply).1.info.retryAfter =
        reply.delay?.or m.info.retryAfter := by rw [hinfo]
    rcases hjudge : m.judgeReply now purpose reply with ⟨n, verdict⟩
    cases hdelay : reply.delay? with
    | some seconds =>
      obtain ⟨error, hfail, hfault⟩ := m.judgeReply_of_delay now purpose hdelay
      rw [hjudge] at hfail
      obtain rfl : verdict = .fail error := hfail
      have hreceive : m.receive now reply = n.fail call purpose error := by
        simp only [receive, hexchange, hjudge]
      rw [hreceive, hdelay] at hkept
      rw [hreceive]
      exact ⟨hkept, by simpa [fail_eq, Effect.failure?] using hfault⟩
    | none =>
      rw [hdelay, Option.none_or] at hkept
      refine AsksNothing.accounts ?_ hkept
      simp only [receive, hexchange, hjudge]
      cases verdict with
      | resend => exact send_asksNothing _ call purpose
      | done => exact absurd (congrArg Prod.snd hjudge) (m.judgeReply_learns now purpose hother).2
      | fail error =>
        exact asksNothing_failed call
          (m.judgeReply_of_no_delay now purpose hdelay (congrArg Prod.snd hjudge))

/-- **Every event accounts for the delay that is kept.** -/
theorem step_accountsDelay (m : Manager) (now : Instant) (event : Event) :
    AccountsDelay event.delay? m (m.step now event) := by
  have hmoves (hevent : ∀ reply, event ≠ .replied reply) :
      AccountsDelay none m (m.step now event) := by
    have hmoves := m.moves_step now hevent
    exact hmoves.asksNothing.accounts (by rw [hmoves.info.2])
  cases event with
  | called | granted | returned | fired => exact hmoves (by simp)
  | replied reply =>
    change AccountsDelay reply.delay? m (m.receive now reply)
    cases hexchange : m.exchange with
    | some exchange => exact receive_accountsDelay hexchange
    | none =>
      rw [receive_of_no_exchange now reply hexchange]
      exact ⟨rfl, by simp⟩

/-- The delay that a manager keeps is what the endings of its run leave. -/
theorem IsNew.retryAfter_after {m : Manager} (hm : m.IsNew) (history : History) :
    (m.after history).info.retryAfter = (m.endings history).foldl Ending.keep none := by
  have hnil : m.info.retryAfter = none := by
    obtain ⟨settings, bound, procedure, rfl⟩ := hm
    rfl
  refine after_induction
    (p := fun history n => n.info.retryAfter = (m.endings history).foldl Ending.keep none)
    m hnil ?_ history
  intro history now event hkept
  rw [endings, along_concat, List.foldl_append,
    ((m.after history).step_accountsDelay now event).kept, hkept]
  rfl

/-- **When the delay is that of the last failure.** Over every run of a new manager, if the last
ending that the listener was told of is a failure, then the delay that the manager tells is the one
that this failure asks for exactly if it asks for one, or every earlier failure that asked for one
was followed by a registration; a delay that an earlier failure asked for is told until a
registration, or a failure that asks for another one. After a registration no delay is told until
the next failure, nor before the first ending. A failure asks for a delay exactly if it carries the
code for that. -/
theorem delay_is_of_last_failure_iff {m : Manager} (hm : m.IsNew) (history : History) :
    (∀ earlier delay, m.endings history = earlier ++ [.failed delay] →
      ((m.after history).info.retryAfter = delay ↔
        (delay = none → ∀ before asked since, earlier = before ++ .failed (some asked) :: since →
          Ending.registered ∈ since))) ∧
    (∀ before asked since, m.endings history = before ++ .failed (some asked) :: since →
      (∀ ending ∈ since, ending = .failed none) →
        (m.after history).info.retryAfter = some asked) ∧
    (∀ earlier, m.endings history = earlier ++ [.registered] →
      (m.after history).info.retryAfter = none) ∧
    (m.endings history = [] → (m.after history).info.retryAfter = none) ∧
    ∀ now event, ∀ error ∈ ((m.after history).step now event).2.filterMap Effect.failure?,
      (error.registrationFault? = some .retryAfter ↔ event.delay?.isSome = true) := by
  have hkept := hm.retryAfter_after history
  refine ⟨?_, ?_, ?_, ?_, ?_⟩
  · intro earlier delay hlast
    rw [hkept, hlast, List.foldl_append, List.foldl_cons, List.foldl_nil, Ending.keep]
    cases delay with
    | some seconds => simp
    | none =>
      rw [Option.none_or, Ending.foldl_keep_eq_none_iff]
      exact ⟨fun h _ => h, fun h => h rfl⟩
  · intro before asked since hsplit hsilent
    rw [hkept, hsplit, Ending.foldl_keep_of_asked before asked hsilent]
  · intro earlier hlast
    rw [hkept, hlast, List.foldl_append]
    rfl
  · intro hnil
    rw [hkept, hnil]
    rfl
  · intro now event
    exact ((m.after history).step_accountsDelay now event).coded

/-- An example: the registrar asks to wait, then accepts the next attempt, and then refuses the
refresh. -/
def sampleCleared : History :=
  [(0, .called 0 .register),
    (1, .replied (.response { status := 503, headers := [.raw "Retry-After" "120"] })),
    (1, .returned 0), (2, .called 1 .register), (3, .replied .accepted), (3, .returned 1),
    (4, .called 2 .refresh), (5, .replied (.response { status := 403 }))]

/-- In the example, the delay is that of the last failure. -/
theorem delay_cleared_in_sample :
    sample.endings sampleCleared = [.failed (some 120), .registered] ++ [.failed none] ∧
      (sample.after sampleCleared).info.retryAfter = none := by
  have hendings : sample.endings sampleCleared =
      [.failed (some 120), .registered] ++ [.failed none] := by
    decide +kernel
  refine ⟨hendings, ((delay_is_of_last_failure_iff sample_isNew sampleCleared).1 _ _ hendings).mpr
    fun _ before asked since hsplit => ?_⟩
  -- Only the first ending asks for a delay.
  rcases before with _ | ⟨first, _ | ⟨second, before⟩⟩
  · obtain ⟨-, rfl⟩ := List.cons.inj hsplit
    exact List.mem_singleton_self _
  · simp at hsplit
  · simp at hsplit

/-- An example: the registrar asks to wait, and refuses the next attempt without asking. -/
def sampleStale : History :=
  [(0, .called 0 .register),
    (1, .replied (.response { status := 503, headers := [.raw "Retry-After" "120"] })),
    (1, .returned 0), (2, .called 1 .register), (3, .replied (.response { status := 403 }))]

/-- **A delay that the last failure did not ask for.** In the example, the last failure asks for no
delay, and the manager tells the one that the failure before it asked for. -/
theorem stale_delay_told_in_sample :
    sample.endings sampleStale = [.failed (some 120)] ++ [.failed none] ∧
      (sample.after sampleStale).info.retryAfter = some 120 := by
  decide +kernel

end Manager

end ImsClient.Registration
