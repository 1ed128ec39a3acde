import ImsClient.Proofs.Session.Acknowledgement
import ImsClient.Proofs.Session.Answering

/-!
# What an answer does to the dialog

A task that answers a re-INVITE changes the dialog once at most: when it hears that the
user accepted, it takes both descriptions in, before the 200 is built and handed over.
They stay there, whatever comes of the 200.
-/

namespace ImsClient.Session

/-- Whether a task at a stage answers a re-INVITE. -/
def Stage.IsAnswering : Stage → Prop
  | deciding .. | responding _ | confirming _ => True
  | _ => False

namespace Service

variable {s n : Service} {task : TaskId} {request : Sip.Request} {reply : Description}
  {answering : Option Context} {effects : List Effect}

/-- An acceptance leaves its task waiting for the transport, or ends it. -/
theorem Accepting.stage (h : s.Accepting task request reply answering (n, effects)) :
    ∀ stage ∈ n.stage? task, stage.IsAnswering := by
  cases h with
  | blocked | unbuilt => simp
  | handed => simp [Stage.IsAnswering]

/-- A refusal does so too, and leaves the dialog. -/
theorem refuse_spec (s : Service) (task : TaskId) (request : Sip.Request) (status : Nat)
    (outcome : Outcome) :
    (∀ stage ∈ (s.refuse task request status outcome).1.stage? task, stage.IsAnswering) ∧
      (s.refuse task request status outcome).1.dialog = s.dialog := by
  rcases s.refuse_cases task request status outcome with ⟨error, hrefuse⟩ | ⟨response, _, hrefuse⟩
  · rw [hrefuse]
    exact ⟨by simp, rfl⟩
  · rw [hrefuse]
    exact ⟨by simp [Stage.IsAnswering], rfl⟩

/-- What happens to a task that answers a re-INVITE changes the dialog only if it hears that the
user accepted. -/
theorem step_of_answering (now : Instant) {event : Event} (hbegins : event.begins = false)
    (hstage : ∀ stage ∈ s.stage? event.task, stage.IsAnswering) :
    (∀ stage ∈ (s.step now event).1.stage? event.task, stage.IsAnswering) ∧
      ((s.step now event).1.dialog = s.dialog ∨
        s.hearing now event = [.decision .accepted]) := by
  cases hfound : s.stage? event.task with
  | none =>
    rw [step_of_no_stage now hbegins hfound]
    exact ⟨by simp [hfound], .inl rfl⟩
  | some stage =>
    rcases rests_or_meets hfound hbegins now with hrests | hmeets
    · have hsame : (s.step now event).1 = s := hrests.alone (by simp [Act.task?])
      rw [hsame]
      exact ⟨hstage, .inl rfl⟩
    · cases stage with
      | offering | acking | watching => exact (hstage _ hfound).elim
      | deciding request reply context deadline =>
        cases event with
        | looked task =>
          simp only [Event.task] at hfound ⊢
          obtain ⟨hstep, hhearing⟩ := step_of_decided hfound hmeets
          rw [hstep, hhearing]
          cases hanswer : s.answer with
          | accepted =>
            exact ⟨(s.sendAcceptance_accepting task request reply (some context)).stage, .inr rfl⟩
          | rejected status =>
            have hspec := s.refuse_spec task request status ⟨context, .rejected status⟩
            exact ⟨hspec.1, .inl hspec.2⟩
          | notAnswered =>
            have hspec := s.refuse_spec task request 408 ⟨context, .timedOut⟩
            exact ⟨hspec.1, .inl hspec.2⟩
        | _ => exact hmeets.elim
      | responding responding =>
        cases event with
        | responded task result =>
          simp only [Event.task] at hfound ⊢
          simp only [step, hfound]
          cases responding with
          | awaitAck callId cSeq answering =>
            cases result with
            | ok value => exact ⟨by simp [takeResponded, Stage.IsAnswering], .inl rfl⟩
            | error error =>
              rw [takeResponded, concludeAcceptance_eq]
              exact ⟨by simp, .inl rfl⟩
          | conclude outcome => cases result <;> exact ⟨by simp [takeResponded, conclude], .inl rfl⟩
        | _ => exact hmeets.elim
      | confirming answering =>
        cases event with
        | confirmed task delivery =>
          simp only [Event.task] at hfound ⊢
          simp only [step, hfound]
          cases delivery <;>
            simp only [takeConfirmation, concludeAcceptance_eq] <;> exact ⟨by simp, .inl rfl⟩
        | _ => exact hmeets.elim

/-- An act leaves a task that answers a re-INVITE answering; if it is one of the task's, it changes
the dialog only if the task hears that the user accepted. -/
theorem act_of_answering {act : Act} (hstage : ∀ stage ∈ s.stage? task, stage.IsAnswering)
    (hbegins : ¬ act.Begins task) :
    (∀ stage ∈ (s.act act).1.stage? task, stage.IsAnswering) ∧
      (act.task? = some task →
        (s.act act).1.dialog = s.dialog ∨ s.hears task act = [.decision .accepted]) := by
  by_cases hmine : act.task? = some task
  · obtain ⟨now, event, rfl, rfl⟩ := Act.eq_happened hmine
    have hfalse : event.begins = false :=
      Bool.eq_false_iff.mpr fun htrue => hbegins ⟨now, event, rfl, htrue, rfl⟩
    rw [hears_happened rfl]
    obtain ⟨hnext, hdialog⟩ := step_of_answering now hfalse hstage
    exact ⟨hnext, fun _ => hdialog⟩
  · refine ⟨?_, fun h => absurd h hmine⟩
    rw [show (s.act act).1.stage? task = s.stage? task from (rests_of_other hmine).stays]
    exact hstage

/-- Along a run, what happens to a task that answers a re-INVITE changes the dialog only when it
hears that the user accepted; unless it begins again. -/
theorem dialog_of_answering {first rest : List Act} {act : Act}
    (hstage : ∀ stage ∈ s.stage? task, stage.IsAnswering)
    (hacts : ∀ other ∈ first ++ act :: rest, ¬ other.Begins task)
    (hmine : act.task? = some task) :
    ((s.after first).act act).1.dialog = (s.after first).dialog ∨
      (s.after first).hears task act = [.decision .accepted] := by
  induction first generalizing s with
  | nil => exact (act_of_answering hstage (hacts act (by simp))).2 hmine
  | cons other first ih =>
    obtain ⟨hother, hfirst⟩ := List.forall_mem_cons.mp hacts
    exact ih (act_of_answering hstage hother).1 hfirst

/-- If nothing else is done, the dialog stays until the task hears that the user accepted. -/
theorem dialog_of_unheard {acts : List Act} (hstage : ∀ stage ∈ s.stage? task, stage.IsAnswering)
    (hacts : ∀ act ∈ acts, act.task? = some task ∧ ¬ act.Begins task)
    (hheard : ∀ answer, .decision answer ∉ s.heard task acts) :
    (s.after acts).dialog = s.dialog := by
  induction acts generalizing s with
  | nil => rfl
  | cons act acts ih =>
    obtain ⟨⟨hmine, hbegins⟩, hrest⟩ := List.forall_mem_cons.mp hacts
    obtain ⟨hnext, hdialog⟩ := act_of_answering hstage hbegins
    simp only [heard_cons, List.mem_append, not_or] at hheard
    refine (ih hnext hrest fun answer => (hheard answer).2).trans ?_
    exact (hdialog hmine).resolve_right fun hhears => (hheard .accepted).1 (by simp [hhears])

/-! ### An acceptance that fails -/

/-- The decision is not heard by a task that accepts. -/
theorem Acceptance.heard_ne {dialog? : Option Dialog} {heard : List Hearing} {log : List Effect}
    (h : Acceptance task request answering dialog? heard log) (answer : Answer) :
    .decision answer ∉ heard := by
  cases h <;> simp

/-- It awaits no ACK if the transport did not take the 200. -/
theorem Acceptance.awaited {dialog? : Option Dialog} {heard : List Hearing} {log : List Effect}
    (h : Acceptance task request answering dialog? heard log)
    (hunsent : .responded (.ok ()) ∉ heard) : log.filterMap Effect.awaited? = [] := by
  have hend (result : Except Error Unit) :
      (acceptanceEnd task answering result).filterMap Effect.awaited? = [] := by
    cases answering with
    | none => rfl
    | some context => cases result <;> simp [acceptanceEnd]
  cases h with
  | unsent => exact hend _
  | handed => rfl
  | untaken => exact hend _
  | taken | confirmed => simp at hunsent

/-- On its own, it returns one result. -/
theorem Acceptance.accepted {dialog? : Option Dialog} {heard : List Hearing} {log : List Effect}
    (h : Acceptance task request none dialog? heard log) {result : Except Error Unit}
    (hresult : result ∈ log.filterMap Effect.accepted?) :
    log.filterMap Effect.accepted? = [result] := by
  cases h with
  | handed | taken => cases hresult
  | unsent | untaken | confirmed =>
    obtain rfl := List.mem_singleton.mp hresult
    rfl

/-- The dialog after an acceptance was tried: it stays only if there is none, or the re-INVITE lacks
what its ACK is told by. -/
theorem Accepting.dialog (h : s.Accepting task request reply answering (n, effects)) :
    (s.dialog = none ∨ request.callId? = none ∨ request.cSeq? = none) ∧ n.dialog = s.dialog ∨
      ∃ dialog, s.dialog = some dialog ∧ request.callId? ≠ none ∧ request.cSeq? ≠ none ∧
        n.dialog = some (agreed request reply dialog) := by
  cases h with
  | blocked hmissing => exact .inl ⟨hmissing, rfl⟩
  | unbuilt hdialog hcallId hcSeq => exact .inr ⟨_, hdialog, hcallId, hcSeq, rfl⟩
  | handed hdialog hcallId hcSeq => exact .inr ⟨_, hdialog, by simp [hcallId], by simp [hcSeq], rfl⟩

/-- A dialog is the same once a re-INVITE is accepted if it holds both descriptions already. -/
theorem agreed_eq_iff {dialog : Dialog} :
    agreed request reply dialog = dialog ↔
      dialog.localContent = some reply.content ∧
        ∀ content ∈ request.content?, dialog.remoteContent = some content := by
  have hremote : request.content?.or dialog.remoteContent = dialog.remoteContent ↔
      ∀ content ∈ request.content?, dialog.remoteContent = some content := by
    cases request.content? <;> simp [eq_comm]
  rw [← hremote]
  constructor
  · intro hsame
    exact ⟨by rw [← hsame]; rfl, congrArg Dialog.remoteContent hsame⟩
  · rintro ⟨hlocal, hremote⟩
    simp only [agreed, hremote, ← hlocal]

/-- **An acceptance that fails has changed the dialog.** Let a re-INVITE be accepted on its own, and
let nothing else be done to the session meanwhile. If that comes to an error and the transport did
not take the 200, then no ACK was awaited, and the dialog is what it was exactly if there is none,
if the re-INVITE has no Call-ID or no number, or if the dialog held both descriptions already: they
go into it before the 200 is built and handed over, and stay there. -/
theorem failed_acceptance_keeps_dialog_iff {rest : List Act} {now : Instant} {error : Error}
    (hrest : ∀ act ∈ rest, act.task? = some task ∧ ¬ act.Begins task)
    (herror : .error error ∈ (s.log task (.happened now (.accepted task request reply) ::
      rest)).filterMap Effect.accepted?)
    (hunsent : .responded (.ok ()) ∉
      s.heard task (.happened now (.accepted task request reply) :: rest)) :
    let run := .happened now (.accepted task request reply) :: rest
    (s.log task run).filterMap Effect.accepted? = [.error error] ∧
      (s.log task run).filterMap Effect.awaited? = [] ∧
      ((s.after run).dialog = s.dialog ↔
        s.dialog = none ∨ request.callId? = none ∨ request.cSeq? = none ∨
          ∃ dialog, s.dialog = some dialog ∧ dialog.localContent = some reply.content ∧
            ∀ content ∈ request.content?, dialog.remoteContent = some content) := by
  intro run
  have haccepting := s.sendAcceptance_accepting task request reply none
  obtain ⟨hlog, hheard, hafter⟩ := s.course_of_event now
    (show (Event.accepted task request reply).task = task from rfl) rest
  rw [show s.step now (.accepted task request reply) = s.sendAcceptance task request reply none
    from rfl] at hlog hheard hafter
  generalize s.sendAcceptance task request reply none = result at haccepting hlog hheard hafter
  obtain ⟨n, effects⟩ := result
  have hcourse := haccepting.course fun act hact => (hrest act hact).2
  have hsame : (n.after rest).dialog = n.dialog :=
    dialog_of_unheard haccepting.stage hrest hcourse.heard_ne
  rw [hlog] at herror ⊢
  rw [hheard] at hunsent
  refine ⟨?_, hcourse.awaited hunsent, ?_⟩
  · exact hcourse.accepted herror
  · rw [hafter, hsame]
    rcases haccepting.dialog with ⟨hmissing, hkept⟩ | ⟨dialog, hdialog, hcallId, hcSeq, hagreed⟩
    · refine iff_of_true hkept ?_
      rcases hmissing with hnone | hnone | hnone
      · exact .inl hnone
      · exact .inr (.inl hnone)
      · exact .inr (.inr (.inl hnone))
    · rw [hagreed, hdialog, Option.some_inj, agreed_eq_iff]
      simp [hcallId, hcSeq]

/-- A re-INVITE that was received, for the examples. -/
def sampleReceived : Sip.Request where
  method := .invite
  uri := .web "http://a" "a"
  headers := [.callId (.given "c"), .cSeq 7 .invite]
  body := .text "v=0"

/-- What this side answers to it. -/
def sampleReply : Description := { content := "v=1" }

/-- In the example, if the re-INVITE comes without its headers, it cannot be accepted, and the
dialog stays. -/
theorem bare_reinvite_keeps_dialog_in_sample :
    let run := [.happened 0 (.accepted 0 { sampleReceived with headers := [] } sampleReply)]
    (∃ error, (sample.log 0 run).filterMap Effect.accepted? = [.error error]) ∧
      (sample.after run).dialog = sample.dialog := by
  intro run
  have herror : .error (.protocol "re-INVITE without Call-ID or CSeq") ∈
      (sample.log 0 run).filterMap Effect.accepted? := List.mem_singleton_self _
  obtain ⟨hresult, _, hsame⟩ :=
    failed_acceptance_keeps_dialog_iff (List.forall_mem_nil _) herror (List.not_mem_nil)
  exact ⟨⟨_, hresult⟩, hsame.mpr (.inr (.inl rfl))⟩

/-- But if it comes as it is and the transport fails to take the 200, the acceptance fails with that
error, and the dialog holds two descriptions that nobody agreed on. -/
theorem untaken_acceptance_changes_dialog :
    let run :=
      [.happened 0 (.accepted 0 sampleReceived sampleReply),
        .happened 1 (.responded 0 (.error (.transport "send_response failed")))]
    (sample.log 0 run).filterMap Effect.accepted? =
        [.error (.transport "send_response failed")] ∧
      .responded (.ok ()) ∉ sample.heard 0 run ∧
      sample.dialog.map (fun dialog => (dialog.localContent, dialog.remoteContent)) =
        some (none, none) ∧
      (sample.after run).dialog.map (fun dialog => (dialog.localContent, dialog.remoteContent)) =
        some (some "v=1", some "v=0") := by
  decide +kernel

end Service

end ImsClient.Session
