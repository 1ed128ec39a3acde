import ImsClient.Proofs.Dialog.Response
import ImsClient.Proofs.Session.Course

/-!
# How a re-INVITE is answered

A task that accepts a re-INVITE takes both descriptions into the dialog, builds a 200,
waits until the transport takes it, and then for its ACK. A task that refuses one
waits for the transport only. What it does depends on what it hears and on nothing
else that is done to the session meanwhile.
-/

namespace ImsClient.Session

/-- What a task does at the end of an acceptance, on its own or as an answer. -/
def acceptanceEnd (task : TaskId) : Option Context → Except Error Unit → List Effect
  | none, result => [.finish task (.response result)]
  | some context, .ok () => conclusion task ⟨context, .accepted⟩
  | some context, .error e => conclusion task ⟨context, .failed e⟩

/-- What a task does at the end of a refusal. -/
def refusalEnd (task : TaskId) (outcome : Outcome) : List Effect :=
  [.tellOutcome outcome, .finish task (.outcome outcome)]

/-- The dialog once a re-INVITE is accepted: it holds both descriptions. -/
def agreed (request : Sip.Request) (reply : Description) (dialog : Dialog) : Dialog :=
  { dialog with
    remoteContent := request.content?.or dialog.remoteContent
    localContent := some reply.content }

/-- A response answers a request with a status, by the dialog that there is. -/
def Answers (dialog? : Option Dialog) (request : Sip.Request) (status : Nat)
    (response : Sip.Response) : Prop :=
  response.status = status ∧ ∃ dialog, dialog? = some dialog ∧ dialog.Echoes request response

/-- A response to a request has its Call-ID and its number. -/
theorem Answers.identified {dialog? : Option Dialog} {request : Sip.Request} {status : Nat}
    {response : Sip.Response} (h : Answers dialog? request status response) :
    Sip.Headers.callId? response.headers = request.callId? ∧
      Sip.Headers.cSeq? response.headers = request.cSeq? := by
  obtain ⟨_, _, _, hechoes⟩ := h
  exact ⟨hechoes.callId?, hechoes.cSeq?⟩

namespace Answer

/-- The status by which a decision answers a re-INVITE. -/
def status : Answer → Nat
  | accepted => 200
  | rejected status => status
  | notAnswered => 408

/-- How a renegotiation ends by a decision, if all goes well. -/
def ending : Answer → Ending
  | accepted => .accepted
  | rejected status => .rejected status
  | notAnswered => .timedOut

/-- What the listener is told of an outcome, by the decision: of a failure only if the user
accepted. -/
def notices : Answer → Outcome → List Notice
  | accepted, outcome => outcome.notices
  | _, outcome => [.updated outcome]

end Answer

namespace Service

variable {s n : Service} {task : TaskId} {request : Sip.Request} {reply : Description}
  {answering : Option Context} {outcome : Outcome} {effects : List Effect}

/-- How the acceptance of a re-INVITE goes on. -/
inductive Accepting (s : Service) (task : TaskId) (request : Sip.Request) (reply : Description)
    (answering : Option Context) : Service × List Effect → Prop
  /-- There is no dialog, or the re-INVITE lacks what its ACK is told by. -/
  | blocked {error : Error}
      (hmissing : s.dialog = none ∨ request.callId? = none ∨ request.cSeq? = none) :
      Accepting s task request reply answering
        (s.withoutTask task, acceptanceEnd task answering (.error error))
  /-- The 200 cannot be built, with both descriptions in the dialog. -/
  | unbuilt {dialog : Dialog} {error : Error} (hdialog : s.dialog = some dialog)
      (hcallId : request.callId? ≠ none) (hcSeq : request.cSeq? ≠ none) :
      Accepting s task request reply answering
        ({ s with dialog := some (agreed request reply dialog) }.withoutTask task,
          acceptanceEnd task answering (.error error))
  /-- The 200 is handed to the transport. -/
  | handed {dialog : Dialog} {callId : Identifier} {cSeq : Nat} {response : Sip.Response}
      (hdialog : s.dialog = some dialog) (hcallId : request.callId? = some callId)
      (hcSeq : request.cSeq? = some cSeq) (hanswers : Answers s.dialog request 200 response) :
      Accepting s task request reply answering
        ({ s with dialog := some (agreed request reply dialog) }.withTask task
            (.responding (.awaitAck callId cSeq answering)), [.respond task response])

/-- To end an acceptance takes the task out. -/
theorem concludeAcceptance_eq (s : Service) (task : TaskId) (answering : Option Context)
    (result : Except Error Unit) :
    s.concludeAcceptance task answering result =
      (s.withoutTask task, acceptanceEnd task answering result) := by
  cases answering with
  | none => rfl
  | some context => cases result <;> rfl

/-- An acceptance goes on in one of these ways. -/
theorem sendAcceptance_accepting (s : Service) (task : TaskId) (request : Sip.Request)
    (reply : Description) (answering : Option Context) :
    s.Accepting task request reply answering (s.sendAcceptance task request reply answering) := by
  unfold sendAcceptance
  cases hdialog : s.dialog with
  | none =>
    rw [concludeAcceptance_eq]
    exact .blocked (.inl hdialog)
  | some dialog =>
    dsimp only
    split
    · next callId cSeq hcallId hcSeq =>
      split
      · rw [concludeAcceptance_eq]
        exact .unbuilt hdialog (by simp [hcallId]) (by simp [hcSeq])
      · next response hmade =>
        obtain ⟨hstatus, hechoes⟩ := Dialog.accept_spec hmade
        exact .handed hdialog hcallId hcSeq
          ⟨hstatus, dialog, hdialog, hechoes.echoed, hechoes.recipient⟩
    · next hmissing =>
      rw [concludeAcceptance_eq]
      refine .blocked (.inr ?_)
      cases hcallId : request.callId? with
      | none => exact .inl rfl
      | some callId =>
        cases hcSeq : request.cSeq? with
        | none => exact .inr rfl
        | some cSeq => exact (hmissing callId cSeq hcallId hcSeq).elim

/-- How a refusal goes on: a response is handed to the transport, or none can be built. -/
theorem refuse_cases (s : Service) (task : TaskId) (request : Sip.Request) (status : Nat)
    (outcome : Outcome) :
    (∃ error, s.refuse task request status outcome =
      (s.withoutTask task, refusalEnd task { outcome with ending := .failed error })) ∨
    ∃ response, Answers s.dialog request status response ∧
      s.refuse task request status outcome =
        (s.withTask task (.responding (.conclude outcome)), [.respond task response]) := by
  unfold refuse
  cases hdialog : s.dialog with
  | none => exact .inl ⟨_, rfl⟩
  | some dialog =>
    dsimp only
    split
    · exact .inl ⟨_, rfl⟩
    · next response hmade =>
      obtain ⟨hstatus, hechoes⟩ := Dialog.respond_spec hmade
      exact .inr ⟨response, ⟨hstatus, dialog, rfl, hechoes⟩, rfl⟩

/-! ### The course of an answer -/

/-- A task that waits for an ACK rests, or its acceptance ends: well exactly if the ACK arrived. -/
theorem confirming_course {acts : List Act} (hstage : s.stage? task = some (.confirming answering))
    (hacts : ∀ act ∈ acts, ¬ act.Begins task) :
    s.Rests task acts ∨
      ∃ delivery result, (result = .ok () ↔ delivery = .done ()) ∧
        s.log task acts = acceptanceEnd task answering result ∧
        s.heard task acts = [.confirmed delivery] := by
  rcases rests_or_moves hstage hacts with
    hrests | ⟨before, now, event, rest, rfl, htask, hrests, hmeets⟩
  · exact .inl hrests
  · cases event with
    | confirmed other delivery =>
      obtain rfl : other = task := htask
      have hsame := hrests.stays.trans hstage
      obtain ⟨result, hresult, htaken⟩ : ∃ result, (result = .ok () ↔ delivery = .done ()) ∧
          (s.after before).takeConfirmation other answering delivery =
            ((s.after before).withoutTask other, acceptanceEnd other answering result) := by
        cases delivery with
        | done value => exact ⟨_, iff_of_true rfl rfl, concludeAcceptance_eq ..⟩
        | failure error => exact ⟨_, by simp, concludeAcceptance_eq ..⟩
        | none => exact ⟨_, by simp, concludeAcceptance_eq ..⟩
      have hstep : (s.after before).step now (.confirmed other delivery) =
          ((s.after before).withoutTask other, acceptanceEnd other answering result) := by
        simpa only [step, hsame] using htaken
      have hended := rests_withoutTask (s.after before) other fun act hact =>
        hacts act (List.mem_append_right before (List.mem_cons_of_mem _ hact))
      obtain ⟨hlog, hheard, _⟩ := course_of_move hrests now (.confirmed other delivery) rfl rest
      rw [hstep] at hlog hheard
      refine .inr ⟨delivery, result, hresult, ?_, ?_⟩
      · rw [hlog, hended.log, List.append_nil]
      · rw [hheard, hended.heard]
        simp [hearing, hsame]
    | _ => exact hmeets.elim

/-- A task whose response is with the transport rests, or it goes on when the transport took it or
did not. -/
theorem responding_course {responding : Responding} {acts : List Act}
    (hstage : s.stage? task = some (.responding responding))
    (hacts : ∀ act ∈ acts, ¬ act.Begins task) :
    s.Rests task acts ∨
      ∃ m result n effects rest, (∀ act ∈ rest, ¬ act.Begins task) ∧
        takeResponded m task responding result = (n, effects) ∧
        s.log task acts = effects ++ n.log task rest ∧
        s.heard task acts = .responded result :: n.heard task rest := by
  rcases rests_or_moves hstage hacts with
    hrests | ⟨before, now, event, rest, rfl, htask, hrests, hmeets⟩
  · exact .inl hrests
  · cases event with
    | responded other result =>
      obtain rfl : other = task := htask
      have hsame := hrests.stays.trans hstage
      have hstep : (s.after before).step now (.responded other result) =
          (s.after before).takeResponded other responding result := by
        simp only [step, hsame]
      obtain ⟨hlog, hheard, _⟩ := course_of_move hrests now (.responded other result) rfl rest
      rw [hstep] at hlog hheard
      refine .inr ⟨s.after before, result, _, _, rest, fun act hact => hacts act (by simp [hact]),
        rfl, hlog, ?_⟩
      rw [hheard]
      simp only [hearing, hsame]
      rfl
    | _ => exact hmeets.elim

/-- How an acceptance goes: what its task hears from then on, and what it does. -/
inductive Acceptance (task : TaskId) (request : Sip.Request) (answering : Option Context)
    (dialog? : Option Dialog) : List Hearing → List Effect → Prop
  | unsent {error : Error} :
      Acceptance task request answering dialog? [] (acceptanceEnd task answering (.error error))
  | handed {response : Sip.Response} (hanswers : Answers dialog? request 200 response) :
      Acceptance task request answering dialog? [] [.respond task response]
  | untaken {response : Sip.Response} {error : Error}
      (hanswers : Answers dialog? request 200 response) :
      Acceptance task request answering dialog? [.responded (.error error)]
        (.respond task response :: acceptanceEnd task answering (.error error))
  | taken {response : Sip.Response} {callId : Identifier} {cSeq : Nat} {patience : Duration}
      (hanswers : Answers dialog? request 200 response) (hcallId : request.callId? = some callId)
      (hcSeq : request.cSeq? = some cSeq) :
      Acceptance task request answering dialog? [.responded (.ok ())]
        [.respond task response, .awaitAck task callId cSeq patience]
  | confirmed {response : Sip.Response} {callId : Identifier} {cSeq : Nat}
      {patience : Duration} {delivery : Delivery Unit} {result : Except Error Unit}
      (hanswers : Answers dialog? request 200 response) (hcallId : request.callId? = some callId)
      (hcSeq : request.cSeq? = some cSeq) (hresult : result = .ok () ↔ delivery = .done ()) :
      Acceptance task request answering dialog? [.responded (.ok ()), .confirmed delivery]
        (.respond task response :: .awaitAck task callId cSeq patience ::
          acceptanceEnd task answering result)

/-- How a refusal goes. -/
inductive Refusal (task : TaskId) (request : Sip.Request) (status : Nat) (outcome : Outcome)
    (dialog? : Option Dialog) : List Hearing → List Effect → Prop
  | unsent {error : Error} :
      Refusal task request status outcome dialog? []
        (refusalEnd task { outcome with ending := .failed error })
  | handed {response : Sip.Response} (hanswers : Answers dialog? request status response) :
      Refusal task request status outcome dialog? [] [.respond task response]
  | untaken {response : Sip.Response} {error : Error}
      (hanswers : Answers dialog? request status response) :
      Refusal task request status outcome dialog? [.responded (.error error)]
        (.respond task response :: refusalEnd task { outcome with ending := .failed error })
  | taken {response : Sip.Response} (hanswers : Answers dialog? request status response) :
      Refusal task request status outcome dialog? [.responded (.ok ())]
        (.respond task response :: refusalEnd task outcome)

/-- An acceptance goes so, whatever else is done to the session. -/
theorem Accepting.course (h : s.Accepting task request reply answering (n, effects))
    {rest : List Act} (hrest : ∀ act ∈ rest, ¬ act.Begins task) :
    Acceptance task request answering s.dialog (n.heard task rest)
      (effects ++ n.log task rest) := by
  cases h with
  | blocked hmissing =>
    have hgone := s.rests_withoutTask task hrest
    rw [hgone.log, hgone.heard, List.append_nil]
    exact .unsent
  | @unbuilt dialog error hdialog hcallId hcSeq =>
    have hgone :=
      { s with dialog := some (agreed request reply dialog) }.rests_withoutTask task hrest
    rw [hgone.log, hgone.heard, List.append_nil]
    exact .unsent
  | @handed dialog callId cSeq response hdialog hcallId hcSeq hanswers =>
    rcases responding_course (stage?_withTask_self _ task _) hrest with
      hrests | ⟨m, result, n, effects, more, hmore, htaken, hlog, hheard⟩
    · rw [hrests.log, hrests.heard]
      exact .handed hanswers
    · rw [hlog, hheard]
      cases result with
      | error error =>
        rw [takeResponded, concludeAcceptance_eq] at htaken
        cases htaken
        have hgone := m.rests_withoutTask task hmore
        rw [hgone.log, hgone.heard, List.append_nil]
        exact .untaken hanswers
      | ok value =>
        cases htaken
        rcases confirming_course (m.stage?_withTask_self task _) hmore with
          hrests | ⟨delivery, result, hresult, hlog, hheard⟩
        · rw [hrests.log, hrests.heard]
          exact .taken hanswers hcallId hcSeq
        · rw [hlog, hheard]
          exact .confirmed hanswers hcallId hcSeq hresult

/-- A refusal goes so. -/
theorem refusing_course {status : Nat}
    (h : s.refuse task request status outcome = (n, effects)) {rest : List Act}
    (hrest : ∀ act ∈ rest, ¬ act.Begins task) :
    Refusal task request status outcome s.dialog (n.heard task rest)
      (effects ++ n.log task rest) := by
  rcases s.refuse_cases task request status outcome with
    ⟨error, hrefuse⟩ | ⟨response, hanswers, hrefuse⟩
  · rw [hrefuse] at h
    cases h
    have hgone := s.rests_withoutTask task hrest
    rw [hgone.log, hgone.heard, List.append_nil]
    exact .unsent
  · rw [hrefuse] at h
    cases h
    rcases responding_course (s.stage?_withTask_self task _) hrest with
      hrests | ⟨m, result, n, effects, more, hmore, htaken, hlog, hheard⟩
    · rw [hrests.log, hrests.heard]
      exact .handed hanswers
    · rw [hlog, hheard]
      have hgone := m.rests_withoutTask task hmore
      cases result with
      | error error =>
        cases htaken
        rw [hgone.log, hgone.heard]
        exact .untaken hanswers
      | ok value =>
        cases htaken
        rw [hgone.log, hgone.heard]
        exact .taken hanswers

/-! ### What an answer comes to -/

/-- What a log comes to: the responses that were handed over, the ACKs that were awaited, the
outcomes that were returned, and what the listener was told. -/
structure Tally where
  responses : List Sip.Response
  awaited : List (Identifier × Nat)
  outcomes : List Outcome
  notices : List Notice

/-- What a task has done. -/
def tally (log : List Effect) : Tally where
  responses := log.filterMap Effect.responded?
  awaited := log.filterMap Effect.awaited?
  outcomes := log.filterMap Effect.outcome?
  notices := log.filterMap Effect.told?

/-- Nothing comes to nothing. -/
theorem tally_nil : tally [] = ⟨[], [], [], []⟩ := rfl

/-- A response that is handed over counts as one. -/
theorem tally_respond (task : TaskId) (response : Sip.Response) (log : List Effect) :
    tally (.respond task response :: log) =
      { tally log with responses := response :: (tally log).responses } := rfl

/-- So does an ACK that is awaited. -/
theorem tally_awaitAck (task : TaskId) (callId : Identifier) (cSeq : Nat) (patience : Duration)
    (log : List Effect) :
    tally (.awaitAck task callId cSeq patience :: log) =
      { tally log with awaited := (callId, cSeq) :: (tally log).awaited } := rfl

/-- The end of an acceptance counts as its outcome. -/
theorem tally_acceptanceEnd (task : TaskId) (context : Context) (result : Except Error Unit) :
    tally (acceptanceEnd task (some context) result) =
      let outcome : Outcome :=
        ⟨context, match result with | .ok () => .accepted | .error e => .failed e⟩
      ⟨[], [], [outcome], outcome.notices⟩ := by
  cases result <;> simp [tally, acceptanceEnd]

/-- So does that of a refusal. -/
theorem tally_refusalEnd (task : TaskId) (outcome : Outcome) :
    tally (refusalEnd task outcome) = ⟨[], [], [outcome], [.updated outcome]⟩ := rfl

/-- What an answer comes to, by the decision and the dialog that there was, and by what was heard.
-/
structure Settled (request : Sip.Request) (context : Context) (answer : Answer)
    (dialog? : Option Dialog) (heard : List Hearing) (tally : Tally) : Prop where
  /-- The decision is what is heard first. -/
  decided : heard.head? = some (.decision answer)
  /-- One response is handed over at most. -/
  once : tally.responses.length ≤ 1
  /-- It has the status of the decision, and is the answer of the dialog to the request. -/
  response : ∀ response ∈ tally.responses, Answers dialog? request answer.status response
  /-- An ACK is awaited of a 200 that was taken, and of no other response: by the Call-ID and the
  number of that 200. -/
  awaited : ∀ entry ∈ tally.awaited, answer = .accepted ∧ .responded (.ok ()) ∈ heard ∧
    ∃ response ∈ tally.responses, Sip.Headers.callId? response.headers = some entry.1 ∧
      Sip.Headers.cSeq? response.headers = some entry.2
  /-- The task is returned from once at most. -/
  returned : tally.outcomes.length ≤ 1
  /-- It is not returned from as long as it waits for the transport to take the response, or for the
  ACK of a 200. -/
  isOpen : tally.outcomes = [] ↔ tally.responses ≠ [] ∧
    (heard = [.decision answer] ∨ heard = [.decision .accepted, .responded (.ok ())])
  /-- It ends as accepted if the 200 was taken and the ACK arrived, as rejected or timed out if the
  response that says so was taken, and has failed otherwise. -/
  ending : ∀ outcome ∈ tally.outcomes, outcome.context = context ∧
    (outcome.ending = .accepted ↔ answer = .accepted ∧ .responded (.ok ()) ∈ heard ∧
      .confirmed (.done ()) ∈ heard) ∧
    (∀ status, outcome.ending = .rejected status ↔
      answer = .rejected status ∧ .responded (.ok ()) ∈ heard) ∧
    (outcome.ending = .timedOut ↔ answer = .notAnswered ∧ .responded (.ok ()) ∈ heard) ∧
    ((∃ error, outcome.ending = .failed error) ↔ .responded (.ok ()) ∉ heard ∨
      answer = .accepted ∧ .confirmed (.done ()) ∉ heard)
  /-- The listener is told of the outcome once. -/
  updated : tally.notices.filterMap Notice.outcome? = tally.outcomes
  /-- It is told of a failure before that, but only if the user accepted. -/
  told : tally.notices = tally.outcomes.flatMap answer.notices

variable {context : Context} {dialog? : Option Dialog} {heard : List Hearing} {log : List Effect}

/-- What an acceptance comes to. -/
theorem Acceptance.settled (h : Acceptance task request (some context) dialog? heard log) :
    Settled request context .accepted dialog? (.decision .accepted :: heard) (tally log) := by
  cases h with
  | unsent =>
    rw [tally_acceptanceEnd]
    constructor <;> simp [Answer.notices]
  | handed hanswers =>
    rw [tally_respond, tally_nil]
    constructor <;> simp [Answer.status, hanswers]
  | untaken hanswers =>
    rw [tally_respond, tally_acceptanceEnd]
    constructor <;> simp [Answer.notices, Answer.status, hanswers]
  | taken hanswers hcallId hcSeq =>
    obtain ⟨hsameCallId, hsameCSeq⟩ := hanswers.identified
    rw [tally_respond, tally_awaitAck, tally_nil]
    constructor <;>
      simp [Answer.status, hanswers, hsameCallId, hsameCSeq, hcallId, hcSeq]
  | @confirmed response callId cSeq patience delivery result hanswers hcallId hcSeq hresult =>
    obtain ⟨hsameCallId, hsameCSeq⟩ := hanswers.identified
    rw [tally_respond, tally_awaitAck, tally_acceptanceEnd]
    cases result with
    | ok value =>
      obtain rfl := hresult.mp rfl
      constructor <;>
        simp [Answer.notices, Answer.status, hanswers, hsameCallId, hsameCSeq, hcallId, hcSeq]
    | error error =>
      have hlate : .done () ≠ delivery := fun hdone => by cases hresult.mpr hdone.symm
      constructor <;>
        simp [Answer.notices, Answer.status, hanswers, hsameCallId, hsameCSeq, hcallId, hcSeq,
          hlate]

/-- What a refusal comes to. -/
theorem Refusal.settled {answer : Answer} (hanswer : answer ≠ .accepted)
    (h : Refusal task request answer.status ⟨context, answer.ending⟩ dialog? heard log) :
    Settled request context answer dialog? (.decision answer :: heard) (tally log) := by
  have hnotices (outcome : Outcome) : answer.notices outcome = [.updated outcome] := by
    cases answer with
    | accepted => exact absurd rfl hanswer
    | rejected | notAnswered => rfl
  have hending : answer.ending ≠ .accepted ∧
      (∀ status, answer.ending = .rejected status ↔ answer = .rejected status) ∧
      (answer.ending = .timedOut ↔ answer = .notAnswered) ∧
      ∀ error, answer.ending ≠ .failed error := by
    cases answer with
    | accepted => exact absurd rfl hanswer
    | rejected | notAnswered => simp [Answer.ending]
  cases h with
  | unsent =>
    rw [tally_refusalEnd]
    constructor <;> simp [hnotices, Notice.outcome?]
  | handed hanswers =>
    rw [tally_respond, tally_nil]
    constructor <;> simp [hanswers]
  | untaken hanswers =>
    rw [tally_respond, tally_refusalEnd]
    constructor <;> simp [hnotices, hanswers, Notice.outcome?]
  | taken hanswers =>
    rw [tally_respond, tally_refusalEnd]
    constructor <;> simp [hnotices, hanswers, hanswer, hending, Notice.outcome?]

/-- A task that waited for the decision hears it, and carries it out. -/
theorem step_of_decided {context : Context} {now deadline : Instant}
    (hstage : s.stage? task = some (.deciding request reply context deadline))
    (hdecided : s.isDecided now deadline = true) :
    s.step now (.looked task) = s.carryOut task request reply context s.answer ∧
      s.hearing now (.looked task) = [.decision s.answer] := by
  simp only [step, look, hearing, hearing.decided, hstage, hdecided, if_true, and_self]

/-- To carry the decision out settles the answer. -/
theorem settled_of_carryOut (h : s.carryOut task request reply context s.answer = (n, effects))
    {rest : List Act} (hrest : ∀ act ∈ rest, ¬ act.Begins task) :
    Settled request context s.answer s.dialog (.decision s.answer :: n.heard task rest)
      (tally (effects ++ n.log task rest)) := by
  cases hanswer : s.answer with
  | accepted =>
    rw [hanswer] at h
    have haccepting := s.sendAcceptance_accepting task request reply (some context)
    rw [show s.sendAcceptance task request reply (some context) = (n, effects) from h] at haccepting
    exact (haccepting.course hrest).settled
  | rejected status =>
    rw [hanswer] at h
    exact Refusal.settled (by simp) (refusing_course h hrest)
  | notAnswered =>
    rw [hanswer] at h
    exact Refusal.settled (by simp) (refusing_course h hrest)

/-- A task that waits for the decision rests, or its answer is settled when it looks and there is
one or its time is over. -/
theorem deciding_course {deadline : Instant} {acts : List Act}
    (hstage : s.stage? task = some (.deciding request reply context deadline))
    (hacts : ∀ act ∈ acts, ¬ act.Begins task) :
    s.Rests task acts ∨
      ∃ before now rest, acts = before ++ .happened now (.looked task) :: rest ∧
        s.Rests task before ∧ (s.after before).isDecided now deadline = true ∧
        Settled request context (s.after before).answer (s.after before).dialog
          (s.heard task acts) (tally (s.log task acts)) := by
  rcases rests_or_moves hstage hacts with
    hrests | ⟨before, now, event, rest, rfl, htask, hrests, hmeets⟩
  · exact .inl hrests
  · cases event with
    | looked other =>
      obtain rfl : other = task := htask
      obtain ⟨hstep, hhearing⟩ := step_of_decided (hrests.stays.trans hstage) hmeets
      obtain ⟨hlog, hheard, _⟩ := course_of_move hrests now (.looked other) rfl rest
      rw [hstep] at hlog hheard
      rw [hhearing] at hheard
      refine .inr ⟨before, now, rest, rfl, hrests, hmeets, ?_⟩
      rw [hlog, hheard]
      exact settled_of_carryOut rfl fun act hact => hacts act (by simp [hact])
    | _ => exact hmeets.elim

/-- A re-INVITE that is received is answered as if its task had waited and looked. -/
theorem course_of_received (s : Service) (task : TaskId) (request : Sip.Request)
    (reply : Description) (context : Context) (now : Instant) (rest : List Act) :
    let waiting := s.withTask task
      (.deciding request reply context (now + s.settings.ringingTime.nanoseconds))
    s.log task (.happened now (.received task request reply context) :: rest) =
        waiting.log task (.happened now (.looked task) :: rest) ∧
      s.heard task (.happened now (.received task request reply context) :: rest) =
        waiting.heard task (.happened now (.looked task) :: rest) := by
  obtain ⟨hact, hhears⟩ := s.received_eq task request reply context now
  refine ⟨?_, ?_⟩
  · rw [log_cons, log_cons, hact]
    rfl
  · rw [heard_cons, heard_cons, hact, hhears]

end Service

end ImsClient.Session
