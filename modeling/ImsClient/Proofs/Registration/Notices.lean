import ImsClient.Proofs.Registration.Standing
import Mathlib.Data.List.Forall2

/-!
# What the listener is told

Every turn that comes to work ends with one notice, and nothing else gives one. So
the notices come in the order of the turns, and whoever replays them knows whether
the client is registered. That a step keeps this account is shown of the moves that
it comes to; the account of a run is that of its steps, one after another.
-/

namespace ImsClient.Registration

/-- Work that a call does with the lock. -/
structure Job where
  call : CallId
  work : Work
deriving DecidableEq

/-- The work of a turn, if the turn comes to any. -/
def Turn.job? (turn : Turn) : Option Job := turn.work.map (⟨turn.waiter.call, ·⟩)

/-- Whether a notice is one that this work ends with. -/
def Work.endsWith : Work → Notice → Bool
  | exchange .register, .registered | exchange .register, .failed _ => true
  | exchange (.unregister _), .terminated | exchange (.unregister _), .failed _ => true
  | stop _, .terminated => true
  | _, _ => false

/-- A notice is the one that a job ends with. -/
def Job.isAnsweredBy (job : Job) (entry : CallId × Notice) : Prop :=
  entry.1 = job.call ∧ job.work.endsWith entry.2 = true

/-- Whether the client is registered by what a notice says. -/
def Notice.saysRegistered : Notice → Bool
  | registered => true
  | failed _ | terminated => false

/-- Whether the client is registered by what the notices of a log say, one after another. -/
def replay (start : Bool) : List (CallId × Notice) → Bool
  | [] => start
  | entry :: rest => replay entry.2.saysRegistered rest

/-- Every notice in a log that the registration is terminated finds one by the notices before. -/
def Honest (start : Bool) : List (CallId × Notice) → Prop
  | [] => True
  | entry :: rest =>
    (entry.2 = .terminated → start = true) ∧ Honest entry.2.saysRegistered rest

/-- A log that goes on is replayed from where it stood. -/
theorem replay_append (start : Bool) (first rest : List (CallId × Notice)) :
    replay start (first ++ rest) = replay (replay start first) rest := by
  induction first generalizing start with
  | nil => rfl
  | cons entry first ih => exact ih _

/-- A log that goes on is honest if both of its parts are. -/
theorem honest_append {start : Bool} {first rest : List (CallId × Notice)}
    (hfirst : Honest start first) (hrest : Honest (replay start first) rest) :
    Honest start (first ++ rest) := by
  induction first generalizing start with
  | nil => exact hrest
  | cons entry first ih => exact ⟨hfirst.1, ih hfirst.2 hrest⟩

/-- In an honest log, wherever the registration is said to be terminated there was one before. -/
theorem Honest.replay_of_terminated {start : Bool} {log : List (CallId × Notice)}
    (hlog : Honest start log) {before rest : List (CallId × Notice)} {call : CallId}
    (hsplit : log = before ++ (call, .terminated) :: rest) : replay start before = true := by
  subst hsplit
  induction before generalizing start with
  | nil => exact hlog.1 rfl
  | cons entry before ih => exact ih hlog.2

namespace Manager

/-- The jobs that calls come to along a run, in order. -/
def jobs (m : Manager) (history : History) : List Job := (m.served history).filterMap Turn.job?

/-- The job that is not done yet, if there is one. -/
def unfinished (m : Manager) : List Job :=
  (m.exchange.map fun exchange => ⟨exchange.call, .exchange exchange.purpose⟩).toList

/-- The notices that the listener is given along a run, in order. -/
def log (m : Manager) (history : History) : List (CallId × Notice) :=
  (m.trace history).filterMap Effect.told?

/-- From one manager to another, the notices account for the jobs: they answer those that were
done, in order, and tell whether the client is registered. -/
structure Accounts (m : Manager) (jobs : List Job) (log : List (CallId × Notice)) (n : Manager) :
    Prop where
  answered : ∃ done, m.unfinished ++ jobs = done ++ n.unfinished ∧
    List.Forall₂ Job.isAnsweredBy done log
  replayed : replay m.registered log = n.registered
  honest : Honest m.registered log

/-- Where no job is begun or done and no notice is given, all is accounted for. -/
theorem accounts_of_same {m n : Manager} (hexchange : n.exchange = m.exchange)
    (hregistered : n.registered = m.registered) : m.Accounts [] [] n where
  answered := ⟨[], by simp [unfinished, hexchange], .nil⟩
  replayed := hregistered.symm
  honest := trivial

/-- Where one job is done and one notice is given, all is accounted for if the notice answers the
job, tells whether the client is registered, and is honest. -/
theorem accounts_of_done {m n : Manager} {jobs : List Job} {notice : Notice} (job : Job)
    (hdone : m.unfinished ++ jobs = job :: n.unfinished)
    (hanswered : job.work.endsWith notice = true)
    (hregistered : notice.saysRegistered = n.registered)
    (hhonest : notice = .terminated → m.registered = true) :
    m.Accounts jobs [(job.call, notice)] n where
  answered := ⟨[job], hdone, .cons ⟨rfl, hanswered⟩ .nil⟩
  replayed := hregistered
  honest := ⟨hhonest, trivial⟩

/-- One account after another is an account. -/
theorem Accounts.append {m n o : Manager} {jobs jobs' : List Job}
    {log log' : List (CallId × Notice)} (hfirst : m.Accounts jobs log n)
    (hrest : n.Accounts jobs' log' o) : m.Accounts (jobs ++ jobs') (log ++ log') o where
  answered := by
    obtain ⟨done, hdone, hanswered⟩ := hfirst.answered
    obtain ⟨done', hdone', hanswered'⟩ := hrest.answered
    refine ⟨done ++ done', ?_, List.rel_append hanswered hanswered'⟩
    rw [← List.append_assoc, hdone, List.append_assoc, hdone', List.append_assoc]
  replayed := by rw [replay_append, hfirst.replayed, hrest.replayed]
  honest := honest_append hfirst.honest (by rw [hfirst.replayed]; exact hrest.honest)

/-- An exchange that starts is a job to be done, or is done at once with a failure. -/
theorem startExchange_accounts (m : Manager) (call : CallId) (purpose : Purpose)
    (hfree : m.exchange = none) :
    m.Accounts [⟨call, .exchange purpose⟩]
      ((m.startExchange call purpose).2.filterMap Effect.told?)
      (m.startExchange call purpose).1 := by
  have hprepared := m.prepare_prepared purpose
  rw [startExchange_eq]
  rcases (m.prepare purpose).send_cases call purpose with
    ⟨n, request, hlearns, _, heq⟩ | ⟨n, error, hlearns, _, heq⟩
  · rw [heq]
    refine ⟨⟨[], by simp [unfinished, hfree], .nil⟩, ?_, trivial⟩
    exact (hlearns.registered.trans hprepared.registered).symm
  · rw [heq]
    refine accounts_of_done ⟨call, .exchange purpose⟩ ?_ ?_ rfl (fun h => by simp at h)
    · simp [unfinished, hfree, fail_eq]
    · cases purpose <;> rfl

/-- Work with the lock is a job, which is done at once if it is to stop. -/
theorem perform_accounts (m : Manager) (call : CallId) (work : Work) (hfree : m.exchange = none)
    (hstop : ∀ thenRegister, work = .stop thenRegister → m.registered = true) :
    m.Accounts [⟨call, work⟩] ((m.perform call work).2.filterMap Effect.told?)
      (m.perform call work).1 := by
  cases work with
  | exchange purpose => exact m.startExchange_accounts call purpose hfree
  | stop thenRegister =>
    refine accounts_of_done ⟨call, .stop thenRegister⟩ ?_ rfl rfl
      (fun _ => hstop thenRegister rfl)
    simp [unfinished, hfree, perform, release, tell]

/-- A reply leaves the exchange that it is for to be done, or it is done with one notice. -/
theorem receive_accounts {fired : CallId → Prop} {m : Manager} (hm : m.Standing fired)
    (now : Instant) (reply : Reply) :
    m.Accounts [] ((m.receive now reply).2.filterMap Effect.told?) (m.receive now reply).1 := by
  cases hexchange : m.exchange with
  | none =>
    rw [receive_of_no_exchange now reply hexchange]
    exact accounts_of_same rfl rfl
  | some exchange =>
    obtain ⟨call, purpose⟩ := exchange
    have hunfinished : m.unfinished = [⟨call, .exchange purpose⟩] := by
      simp [unfinished, hexchange]
    rcases m.receive_cases now reply hexchange with
      ⟨n, request, hlearns, heq⟩ | ⟨n, error, hlearns, heq⟩ | ⟨response, _, _, heq⟩
    · rw [heq]
      exact accounts_of_same hlearns.exchange hlearns.registered
    · rw [heq]
      refine accounts_of_done ⟨call, .exchange purpose⟩ ?_ ?_ rfl (fun h => by simp at h)
      · rw [hunfinished]
        rfl
      · cases purpose <;> rfl
    · rw [heq]
      have hregistered := (hm.underWay _ hexchange).registered
      cases purpose with
      | register =>
        refine accounts_of_done ⟨call, .exchange .register⟩ ?_ rfl rfl
          (fun h => by simp at h)
        rw [hunfinished]
        rfl
      | unregister deferred =>
        refine accounts_of_done ⟨call, .exchange (.unregister deferred)⟩ ?_ rfl rfl
          (fun _ => hregistered rfl)
        rw [hunfinished]
        rfl

end Manager

open Manager

/-- A move accounts for the jobs of its turns. -/
theorem Move.accounts {m n : Manager} {begun : List Origin} {joined : List Waiter}
    {served : List Turn} {effects : List Effect} (hmove : Move m begun joined served n effects) :
    m.Accounts (served.filterMap Turn.job?) (effects.filterMap Effect.told?) n := by
  cases hmove with
  | arrive | fire | defer | conclude | redeem | proceed => exact accounts_of_same rfl rfl
  | decline first rest answer hfree hline hwork | pass first rest hfree hline hwork =>
    have hnone : [m.turn first].filterMap Turn.job? = [] := by simp [turn, Turn.job?, hwork]
    rw [hnone]
    exact accounts_of_same rfl rfl
  | work first rest work hfree hline hwork =>
    have hsome : [m.turn first].filterMap Turn.job? = [⟨first.call, work⟩] := by
      simp [turn, Turn.job?, hwork]
    -- To leave the line is nothing to account for; then comes the work.
    have hleft : m.Accounts [] [] { m with waiting := rest } := accounts_of_same rfl rfl
    rw [hsome]
    refine hleft.append (perform_accounts _ first.call work hfree fun thenRegister h => ?_)
    subst h
    exact registered_of_stop hwork

/-- Moves account for the jobs of their turns. -/
theorem Moves.accounts {m n : Manager} {begun : List Origin} {joined : List Waiter}
    {served : List Turn} {effects : List Effect} (hmoves : Moves m begun joined served n effects) :
    m.Accounts (served.filterMap Turn.job?) (effects.filterMap Effect.told?) n := by
  induction hmoves with
  | refl => exact accounts_of_same rfl rfl
  | cons hmove _ ih =>
    rw [List.filterMap_append, List.filterMap_append]
    exact hmove.accounts.append ih

/-- Moves whose turns come to no job give no notice. -/
theorem Moves.told_of_no_job {m n : Manager} {begun : List Origin} {joined : List Waiter}
    {served : List Turn} {effects : List Effect} (hmoves : Moves m begun joined served n effects)
    (hnone : served.filterMap Turn.job? = []) : effects.filterMap Effect.told? = [] := by
  induction hmoves with
  | refl => rfl
  | cons hmove _ ih =>
    rw [List.filterMap_append, List.append_eq_nil_iff] at hnone
    rw [List.filterMap_append, ih hnone.2, List.append_nil]
    cases hmove with
    | arrive | fire | defer | conclude | redeem | proceed | decline | pass => rfl
    | work first rest work hfree hline hwork => simp [turn, Turn.job?, hwork] at hnone

namespace Manager

/-- A step accounts for the jobs of its turns. -/
theorem step_accounts {fired : CallId → Prop} {m : Manager} (hm : m.Standing fired) (now : Instant)
    (event : Event) :
    m.Accounts ((m.turns now event).filterMap Turn.job?)
      ((m.step now event).2.filterMap Effect.told?) (m.step now event).1 := by
  cases event with
  | replied reply =>
    simpa only [turns, joins, step, List.map_nil, ite_self, List.filterMap_nil] using
      receive_accounts hm now reply
  | called | granted | returned | fired => exact (m.moves_step now (by simp)).accounts

/-- A run from the beginning accounts for the jobs of its turns. -/
theorem IsNew.accounts_after {m : Manager} (hm : m.IsNew) (history : History) :
    m.Accounts (m.jobs history) (m.log history) (m.after history) := by
  refine after_induction
    (p := fun history n => m.Accounts (m.jobs history) (m.log history) n)
    m (accounts_of_same rfl rfl) ?_ history
  intro history now event haccounts
  have hstep := step_accounts (hm.standing_after history) now event
  simp only [jobs, served, log, trace, along_concat, List.filterMap_append] at haccounts ⊢
  exact haccounts.append hstep

/-- **What the listener is told.** Over every run from the beginning, the notices answer, one for
one and in order, the exchanges and stops that had their turn with the lock and are done: all but
the exchange that holds it, if one does. Replayed, they tell whether the client is registered, and a
registration is said to be terminated only where they tell of one. An event gives no notice if it is
no reply and nobody who has a turn comes to work: not a call that finds nothing to stop, to
un-REGISTER or to refresh, and not an un-REGISTER that is left to the REGISTER under way. -/
theorem notices_answer_jobs {m : Manager} (hm : m.IsNew) (history : History) :
    (∃ done, m.jobs history = done ++ (m.after history).unfinished ∧
      List.Forall₂ Job.isAnsweredBy done (m.log history)) ∧
    replay false (m.log history) = (m.after history).registered ∧
    (∀ before call rest, m.log history = before ++ (call, .terminated) :: rest →
      replay false before = true) ∧
    ∀ now event, (∀ reply, event ≠ .replied reply) →
      ((m.after history).turns now event).filterMap Turn.job? = [] →
      ((m.after history).step now event).2.filterMap Effect.told? = [] := by
  have haccounts := hm.accounts_after history
  obtain ⟨settings, bound, procedure, rfl⟩ := hm
  obtain ⟨done, hdone, hanswered⟩ := haccounts.answered
  refine ⟨⟨done, hdone, hanswered⟩, haccounts.replayed, ?_, ?_⟩
  · intro before call rest hsplit
    exact haccounts.honest.replay_of_terminated hsplit
  · intro now event hother hnone
    exact (moves_step _ now hother).told_of_no_job hnone

/-- An example: call 1 asks to un-REGISTER while call 0 registers, and is obeyed. -/
def sampleDeferred : History :=
  [(0, .called 0 .register), (0, .called 1 .unregister), (1, .replied .accepted), (1, .returned 0),
    (2, .replied .accepted)]

/-- In the example, the listener was told that the client is registered before it was told that
the registration is terminated. -/
theorem registered_before_terminated_in_sample :
    sample.log sampleDeferred = [(0, .registered)] ++ (0, .terminated) :: [] ∧
      replay false [(0, .registered)] = true := by
  have hlog : sample.log sampleDeferred = [(0, .registered)] ++ (0, .terminated) :: [] := by
    decide +kernel
  exact ⟨hlog, (notices_answer_jobs sample_isNew sampleDeferred).2.2.1 _ 0 [] hlog⟩

end Manager

end ImsClient.Registration
