import ImsClient.Proofs.Session.Commitment
import ImsClient.Proofs.Session.Offering

/-!
# Who is told of a failure

The listener is told of every outcome of a renegotiation. Of a failure it is told as an
error before that, whenever an offer fails and whenever the acceptance of a re-INVITE
does. A refusal that fails is told as an outcome only.
-/

namespace ImsClient.Session

namespace Service

variable {request : Sip.Request} {context : Context}

/-- By the decision, the listener is told of an outcome as it should be if the user accepted, or if
it is no failure. -/
theorem notices_eq_iff (answer : Answer) (outcome : Outcome) :
    answer.notices outcome = outcome.notices ↔
      answer = .accepted ∨ ∀ error, outcome.ending ≠ .failed error := by
  obtain ⟨context, ending⟩ := outcome
  cases answer with
  | accepted => simp [Answer.notices]
  | rejected | notAnswered => cases ending <;> simp [Answer.notices, Outcome.notices]

/-- What an answer reports: its outcome, but a failure only if the user accepted. -/
theorem Settled.reports_iff {answer : Answer} {dialog? : Option Dialog} {heard : List Hearing}
    {log : List Effect} (h : Settled request context answer dialog? heard (tally log)) :
    Reports log ↔ answer = .accepted ∨
      ∀ outcome ∈ log.filterMap Effect.outcome?, ∀ error, outcome.ending ≠ .failed error := by
  have honce : (log.filterMap Effect.outcome?).length ≤ 1 := h.returned
  have htold : log.filterMap Effect.told? =
      (log.filterMap Effect.outcome?).flatMap answer.notices := h.told
  have hreports : Reports log ↔ (log.filterMap Effect.outcome?).flatMap answer.notices =
      (log.filterMap Effect.outcome?).flatMap Outcome.notices :=
    ⟨fun hreports => htold.symm.trans hreports.told, fun hsame => ⟨honce, htold.trans hsame⟩⟩
  rw [hreports]
  generalize log.filterMap Effect.outcome? = outcomes at honce
  match outcomes, honce with
  | [], _ => simp
  | [outcome], _ => simpa using notices_eq_iff answer outcome

/-- **A refusal that fails is told as no failure.** Whatever is done to a session meanwhile, and
whatever the transport makes of what it is handed: an offer that ends is returned from once, the
listener is told of its outcome once and, if it failed, of that very failure before. The same holds
of the answer to a re-INVITE exactly if the user accepted it, or if it did not fail: when a
rejection or the response to a re-INVITE that nobody decided on cannot be built, or is not taken,
the listener is told of the outcome only. -/
theorem failure_told_iff (s : Service) (task : TaskId) (request : Sip.Request) (context : Context)
    (now : Instant) {rest : List Act} (hrest : ∀ act ∈ rest, ¬ act.Begins task) :
    Reports (s.log task (.happened now (.offered task request context) :: rest)) ∧
      ∀ reply,
        let run := .happened now (.received task request reply context) :: rest
        (Reports (s.log task run) ↔
          (s.heard task run).head? = some (.decision .accepted) ∨
            ∀ outcome ∈ (s.log task run).filterMap Effect.outcome?, ∀ error,
              outcome.ending ≠ .failed error) := by
  refine ⟨?_, fun reply => ?_⟩
  · obtain ⟨hlog, _⟩ := s.course_of_event now
      (show (Event.offered task request context).task = task from rfl) rest
    rw [hlog]
    exact .append rfl rfl (reports_of_offering (s.stage?_withTask_self task _) hrest)
  · intro run
    obtain ⟨hlog, hheard⟩ := s.course_of_received task request reply context now rest
    generalize hwaiting : s.withTask task
      (.deciding request reply context (now + s.settings.ringingTime.nanoseconds)) = waiting
      at hlog hheard
    have hstage : waiting.stage? task = some (.deciding request reply context
        (now + s.settings.ringingTime.nanoseconds)) := by simp [← hwaiting]
    have hlooks : ∀ act ∈ .happened now (.looked task) :: rest, ¬ act.Begins task :=
      List.forall_mem_cons.mpr ⟨by simp [Act.Begins, Event.begins], hrest⟩
    rw [show s.log task run = _ from hlog, show s.heard task run = _ from hheard]
    rcases deciding_course hstage hlooks with hrests | ⟨before, _, _, _, _, _, hsettled⟩
    · rw [hrests.log, hrests.heard]
      exact iff_of_true .nil (.inr fun outcome houtcome => by cases houtcome)
    · rw [hsettled.reports_iff, hsettled.decided]
      simp

/-- An example: a re-INVITE is received after the user decided, and the transport fails to take the
response. -/
def sampleUntaken : List Act :=
  [.happened 0 (.received 0 sampleReceived sampleReply .mediaUpdate),
    .happened 1 (.responded 0 (.error (.transport "send_response failed")))]

/-- In the example, if the user accepted, the listener is told of the failure and of the outcome. -/
theorem untaken_acceptance_told_in_sample :
    (∀ act ∈ sampleUntaken.tail, ¬ act.Begins 0) ∧
      (sample.accept.log 0 sampleUntaken).filterMap Effect.told? =
        [.failed (.transport "send_response failed"),
          .updated ⟨.mediaUpdate, .failed (.transport "send_response failed")⟩] := by
  have hrest : ∀ act ∈ sampleUntaken.tail, ¬ act.Begins 0 := by
    simp [sampleUntaken, Act.Begins, Event.begins]
  have hdecided : (sample.accept.heard 0 sampleUntaken).head? = some (.decision .accepted) := by
    decide +kernel
  have houtcome : (sample.accept.log 0 sampleUntaken).filterMap Effect.outcome? =
      [⟨.mediaUpdate, .failed (.transport "send_response failed")⟩] := by decide +kernel
  have hreports : Reports (sample.accept.log 0 sampleUntaken) :=
    ((failure_told_iff sample.accept 0 sampleReceived .mediaUpdate 0 hrest).2 sampleReply).mpr
      (.inl hdecided)
  exact ⟨hrest, by rw [hreports.told, houtcome]; rfl⟩

/-- But if the user rejected, the answer fails just so, and the listener is told of the outcome
only. -/
theorem untaken_rejection_not_told :
    ((sample.reject none).log 0 sampleUntaken).filterMap Effect.outcome? =
        [⟨.mediaUpdate, .failed (.transport "send_response failed")⟩] ∧
      ((sample.reject none).log 0 sampleUntaken).filterMap Effect.told? =
        [.updated ⟨.mediaUpdate, .failed (.transport "send_response failed")⟩] := by
  decide +kernel

end Service

end ImsClient.Session
