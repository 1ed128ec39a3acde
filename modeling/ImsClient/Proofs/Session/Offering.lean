import ImsClient.Proofs.Session.Course
import ImsClient.Proofs.Session.Retry
import ImsClient.Simulation.Session

/-!
# How an offer ends

A task that offers waits for the reply to its re-INVITE. A 200 goes into the dialog and is
acknowledged, the first challenge of the proxy leads to one more re-INVITE, and anything
else ends the offer. If nothing else is done to the session meanwhile, what the task does
and what becomes of the dialog depends on the replies alone: `Exchange` has a case for
each way that it may go, and `Account` is what all of them come to.
-/

namespace ImsClient.Session

/-- Whether a reply is a response with a status. -/
def Delivery.HasStatus (delivery : Delivery Sip.Response) (status : Nat) : Prop :=
  ∃ response, delivery = .done response ∧ response.status = status

/-- Whether a renegotiation may end so after a reply to its re-INVITE. -/
def Ending.Fits (ending : Ending) (delivery : Delivery Sip.Response) : Prop :=
  match ending with
  | .accepted => delivery.HasStatus 200
  | .rejected status => status = 603 ∧ delivery.HasStatus 603
  | .timedOut => delivery.HasStatus 408
  | .failed _ => ¬ delivery.HasStatus 200 ∧ ¬ delivery.HasStatus 603 ∧ ¬ delivery.HasStatus 408

/-- A response has one status. -/
@[simp] theorem Delivery.hasStatus_done (response : Sip.Response) (status : Nat) :
    (done response).HasStatus status ↔ response.status = status := by
  simp [HasStatus]

/-- What is no response has none. -/
@[simp] theorem Delivery.not_hasStatus_failure (error : Error) (status : Nat) :
    ¬ (failure error : Delivery Sip.Response).HasStatus status := by
  simp [HasStatus]

/-- Nor has what does not come. -/
@[simp] theorem Delivery.not_hasStatus_none (status : Nat) :
    ¬ (none : Delivery Sip.Response).HasStatus status := by
  simp [HasStatus]

/-- A renegotiation that ends as the reply allows ends in the one way that it does. -/
theorem Ending.Fits.iff {ending : Ending} {delivery : Delivery Sip.Response}
    (h : ending.Fits delivery) :
    (ending = .accepted ↔ delivery.HasStatus 200) ∧
    (∀ status, ending = .rejected status ↔ status = 603 ∧ delivery.HasStatus 603) ∧
    (ending = .timedOut ↔ delivery.HasStatus 408) ∧
    ((∃ error, ending = .failed error) ↔
      ¬ delivery.HasStatus 200 ∧ ¬ delivery.HasStatus 603 ∧ ¬ delivery.HasStatus 408) := by
  cases ending with
  | accepted =>
    obtain ⟨response, rfl, hstatus⟩ := h
    simp [hstatus]
  | rejected status =>
    obtain ⟨rfl, response, rfl, hstatus⟩ := h
    simp [hstatus, eq_comm]
  | timedOut =>
    obtain ⟨response, rfl, hstatus⟩ := h
    simp [hstatus]
  | failed error =>
    obtain ⟨haccepted, hdeclined, htimedOut⟩ := h
    simp [haccepted, hdeclined, htimedOut]

namespace Service

/-- Effects do no more than move the transport's count. -/
def CountsOnly (effects : List Effect) : Prop :=
  ∀ effect ∈ effects, ∃ callId cSeq, effect = .advancePeer callId cSeq

/-- Nothing else is found among them. -/
theorem CountsOnly.filterMap {α : Type} {effects : List Effect} {select : Effect → Option α}
    (h : CountsOnly effects) (hselect : ∀ callId cSeq, select (.advancePeer callId cSeq) = none) :
    effects.filterMap select = [] := by
  refine List.filterMap_eq_nil_iff.mpr fun effect heffect => ?_
  obtain ⟨callId, cSeq, rfl⟩ := h effect heffect
  exact hselect callId cSeq

/-- To build a re-INVITE does no more than move the transport's count. -/
theorem createReinvite_countsOnly (s : Service) (offer : Description) :
    CountsOnly (s.createReinvite offer).2.1 := by
  have hpeer (n : Service) (callId : Identifier) (cSeq : Nat) :
      CountsOnly (n.advancePeer callId cSeq).2 := by
    unfold advancePeer CountsOnly
    split
    · split <;> simp
    · simp
  unfold createReinvite
  split
  · simp [CountsOnly]
  · dsimp only
    split <;> exact hpeer _ _ _

/-- How a task goes on that waits for the reply to its re-INVITE. -/
inductive Onward (s : Service) (task : TaskId) (request : Sip.Request) (context : Context)
    (retried : Bool) : Delivery Sip.Response → Service × List Effect → Prop
  /-- It ends, and the session stays as it is. -/
  | ended {delivery : Delivery Sip.Response} (ending : Ending) (hfits : ending.Fits delivery)
      (hending : ending ≠ .accepted) :
      Onward s task request context retried delivery
        (s.withoutTask task, conclusion task ⟨context, ending⟩)
  /-- A 200 is taken in and acknowledged. -/
  | acknowledged {response : Sip.Response} {n : Service} {ack : Sip.Request}
      (hstatus : response.status = 200)
      (hdialog : n.dialog = s.dialog.map (commit request response)) :
      Onward s task request context retried (.done response)
        (n.withTask task (.acking context), [.acknowledge task ack])
  /-- A 200 cannot be acknowledged. -/
  | unacknowledged {response : Sip.Response} {n : Service} (hstatus : response.status = 200)
      (hunread : ∀ dialog, s.dialog = some dialog → dialog.read.isOk = false) :
      Onward s task request context retried (.done response)
        (n.withoutTask task, conclusion task ⟨context, .accepted⟩)
  /-- The challenge of the proxy is read, and another re-INVITE is sent. -/
  | again {response : Sip.Response} {n : Service} {next : Sip.Request} {effects : List Effect}
      {agent answering : Digest.Agent} (hretried : retried = false)
      (hstatus : response.status = 407) (hproxy : s.proxy = some agent)
      (hchallenge : agent.readChallenge response "Proxy-Authenticate" = .ok answering)
      (hdialog : n.dialog = s.dialog.map Dialog.advance) (hcounts : CountsOnly effects) :
      Onward s task request context retried (.done response)
        (n.withTask task (.offering next context true),
          effects ++ [.send task next n.settings.transactionTime])
  /-- It is read, but no other re-INVITE can be built. -/
  | unbuilt {response : Sip.Response} {n : Service} {effects : List Effect} {error : Error}
      (hstatus : response.status = 407)
      (hunread : ∀ dialog, s.dialog = some dialog → dialog.read.isOk = false)
      (hcounts : CountsOnly effects) :
      Onward s task request context retried (.done response)
        (n.withoutTask task, effects ++ conclusion task ⟨context, .failed error⟩)

variable {s : Service} {task : TaskId} {request : Sip.Request} {context : Context} {retried : Bool}

/-- A 200 is acknowledged if the texts of the dialog can be read. -/
theorem takeAcceptance_onward (s : Service) (task : TaskId) (request : Sip.Request)
    (context : Context) (retried : Bool) {response : Sip.Response}
    (hstatus : response.status = 200) :
    s.Onward task request context retried (.done response)
      (s.takeAcceptance task request context response) := by
  unfold takeAcceptance
  cases hdialog : s.dialog with
  | none => exact .unacknowledged hstatus (by simp [hdialog])
  | some dialog =>
    dsimp only
    have hok := Dialog.isOk_request .ack (commit request response dialog) s.bound s.supply
    rw [show (commit request response dialog).read = dialog.read from
      Dialog.read_congr rfl rfl rfl rfl] at hok
    unfold Dialog.ack
    split
    · next heq =>
      rw [heq] at hok
      refine .unacknowledged hstatus fun other hother => ?_
      cases hdialog.symm.trans hother
      exact hok.symm
    · exact .acknowledged hstatus (by simp [hdialog])

/-- The challenge of the proxy is answered if it can be read, and the texts of the dialog too. -/
theorem answerProxy_onward (s : Service) (task : TaskId) (request : Sip.Request)
    (context : Context) {response : Sip.Response} (hstatus : response.status = 407) :
    s.Onward task request context false (.done response)
      (s.answerProxy task request context response) := by
  have hfailed (error : Error) : s.Onward task request context false (.done response)
      (s.concludeFailed task context error) :=
    .ended (.failed error) (by simp [Ending.Fits, hstatus]) (by simp)
  unfold answerProxy
  split
  · exact hfailed _
  · next agent hproxy =>
    split
    · exact hfailed _
    · next answering hchallenge =>
      dsimp only
      generalize (⟨s.featureTags, request.content?.getD ""⟩ : Description) = offer
      generalize hready : { s with proxy := some answering } = ready
      have hsame : ready.dialog = s.dialog := by rw [← hready]
      have hcounts := ready.createReinvite_countsOnly offer
      cases hdialog : s.dialog with
      | none =>
        rw [createReinvite_of_no_dialog offer (hsame.trans hdialog)]
        exact .unbuilt hstatus (by simp [hdialog]) (by simp [CountsOnly])
      | some dialog =>
        obtain ⟨hnext, _, _, hok, _⟩ := createReinvite_spec offer (hsame.trans hdialog)
        generalize ready.createReinvite offer = created at hcounts hnext hok ⊢
        obtain ⟨n, effects, made⟩ := created
        dsimp only at hcounts hnext hok
        cases made with
        | error error =>
          refine .unbuilt hstatus (fun other hother => ?_) hcounts
          cases hdialog.symm.trans hother
          exact hok.symm
        | ok next =>
          exact .again rfl hstatus hproxy hchallenge (by rw [hdialog, hnext]; rfl) hcounts

/-- How a task goes on after a reply. -/
theorem takeReply_onward (s : Service) (task : TaskId) (request : Sip.Request) (context : Context)
    (retried : Bool) (delivery : Delivery Sip.Response) :
    s.Onward task request context retried delivery
      (s.takeReply task request context retried delivery) := by
  cases delivery with
  | failure error => exact .ended (.failed _) (by simp [Ending.Fits]) (by simp)
  | none => exact .ended (.failed _) (by simp [Ending.Fits]) (by simp)
  | done response =>
    simp only [takeReply]
    unfold takeResponse
    split
    · next hstatus => exact s.takeAcceptance_onward task request context retried hstatus
    · next hstatus => exact .ended (.rejected 603) (by simp [Ending.Fits, hstatus]) (by simp)
    · next hstatus => exact .ended .timedOut (by simp [Ending.Fits, hstatus]) (by simp)
    · next hstatus =>
      cases retried with
      | true => exact .ended (.failed _) (by simp [Ending.Fits, hstatus]) (by simp)
      | false => exact s.answerProxy_onward task request context hstatus
    · next haccepted hdeclined htimedOut _ =>
      exact .ended (.failed _) (by simpa [Ending.Fits] using ⟨haccepted, hdeclined, htimedOut⟩)
        (by simp)

/-! ### The course of an offer -/

/-- A task whose ACK is with the transport rests, or it ends as accepted. -/
theorem acking_course {acts : List Act} (hstage : s.stage? task = some (.acking context))
    (hacts : ∀ act ∈ acts, ¬ act.Begins task) :
    s.Rests task acts ∨
      s.log task acts = conclusion task ⟨context, .accepted⟩ ∧ s.heard task acts = [.acked] ∧
        ((∀ act ∈ acts, act.task? = some task) → (s.after acts).dialog = s.dialog) := by
  rcases rests_or_moves hstage hacts with
    hrests | ⟨before, now, event, rest, rfl, htask, hrests, hmeets⟩
  · exact .inl hrests
  · cases event with
    | acked other =>
      obtain rfl : other = task := htask
      have hsame := hrests.stays.trans hstage
      have hstep : (s.after before).step now (.acked other) =
          ((s.after before).withoutTask other, conclusion other ⟨context, .accepted⟩) := by
        simp only [step, hsame]
        rfl
      have hended := rests_withoutTask (s.after before) other fun act hact =>
        hacts act (List.mem_append_right before (List.mem_cons_of_mem _ hact))
      obtain ⟨hlog, hheard, hafter⟩ := course_of_move hrests now (.acked other) rfl rest
      rw [hstep] at hlog hheard hafter
      refine .inr ⟨?_, ?_, fun hmine => ?_⟩
      · rw [hlog, hended.log, List.append_nil]
      · rw [hheard, hended.heard]
        simp [hearing, hsame]
      · rw [hafter, hended.alone fun act hact => hmine act (by simp [hact])]
        show (s.after before).dialog = s.dialog
        rw [hrests.alone fun act hact => hmine act (by simp [hact])]
    | _ => exact hmeets.elim

/-- A task that waits for the reply to its re-INVITE rests, or it goes on after a reply. -/
theorem offering_course {acts : List Act}
    (hstage : s.stage? task = some (.offering request context retried))
    (hacts : ∀ act ∈ acts, ¬ act.Begins task) :
    s.Rests task acts ∨
      ∃ before delivery n effects rest, (∀ act, act ∈ before ∨ act ∈ rest → act ∈ acts) ∧
        s.Rests task before ∧
        (s.after before).Onward task request context retried delivery (n, effects) ∧
        s.log task acts = effects ++ n.log task rest ∧
        s.heard task acts = .reply delivery :: n.heard task rest ∧
        s.after acts = n.after rest := by
  rcases rests_or_moves hstage hacts with
    hrests | ⟨before, now, event, rest, rfl, htask, hrests, hmeets⟩
  · exact .inl hrests
  · cases event with
    | replied other delivery =>
      obtain rfl : other = task := htask
      have hsame := hrests.stays.trans hstage
      have hstep : (s.after before).step now (.replied other delivery) =
          (s.after before).takeReply other request context retried delivery := by
        simp only [step, hsame]
      have honward := (s.after before).takeReply_onward other request context retried delivery
      obtain ⟨hlog, hheard, hafter⟩ := course_of_move hrests now (.replied other delivery) rfl rest
      rw [hstep] at hlog hheard hafter
      generalize (s.after before).takeReply other request context retried delivery = result
        at honward hlog hheard hafter
      obtain ⟨n, effects⟩ := result
      refine .inr ⟨before, delivery, n, effects, rest, ?_, hrests, honward, hlog, ?_, hafter⟩
      · rintro act (hact | hact) <;> simp [hact]
      · rw [hheard]
        simp [hearing, hsame]
    | _ => exact hmeets.elim

/-- An offer reports its outcome if one that is made again does, whatever else is done to the
session. -/
theorem reports_of_course {acts : List Act}
    (hstage : s.stage? task = some (.offering request context retried))
    (hacts : ∀ act ∈ acts, ¬ act.Begins task)
    (hagain : retried = false → ∀ (n : Service) (next : Sip.Request) (rest : List Act),
      n.stage? task = some (.offering next context true) → (∀ act ∈ rest, ¬ act.Begins task) →
        Reports (n.log task rest)) :
    Reports (s.log task acts) := by
  rcases offering_course hstage hacts with
    hrests | ⟨before, delivery, n, effects, rest, hmem, _, honward, hlog, _⟩
  · rw [hrests.log]
    exact .nil
  · have hrest : ∀ act ∈ rest, ¬ act.Begins task := fun act hact => hacts act (hmem act (.inr hact))
    rw [hlog]
    cases honward with
    | ended ending =>
      rw [(rests_withoutTask _ task hrest).log, List.append_nil]
      exact reports_conclusion task _
    | @acknowledged response m ack =>
      refine .append rfl rfl ?_
      rcases acking_course (m.stage?_withTask_self task _) hrest with hrests | ⟨hlast, _⟩
      · rw [hrests.log]
        exact .nil
      · rw [hlast]
        exact reports_conclusion task _
    | @unacknowledged response m =>
      rw [(rests_withoutTask m task hrest).log, List.append_nil]
      exact reports_conclusion task _
    | @again response m next counts agent answering hretried _ _ _ _ hcounts =>
      refine .append ?_ ?_ (hagain hretried _ next rest (m.stage?_withTask_self task _) hrest)
      · rw [List.filterMap_append, hcounts.filterMap fun _ _ => rfl]
        rfl
      · rw [List.filterMap_append, hcounts.filterMap fun _ _ => rfl]
        rfl
    | @unbuilt response m counts error _ _ hcounts =>
      rw [(rests_withoutTask m task hrest).log, List.append_nil]
      exact .append (hcounts.filterMap fun _ _ => rfl) (hcounts.filterMap fun _ _ => rfl)
        (reports_conclusion task _)

/-- An offer reports its outcome. -/
theorem reports_of_offering {acts : List Act}
    (hstage : s.stage? task = some (.offering request context retried))
    (hacts : ∀ act ∈ acts, ¬ act.Begins task) : Reports (s.log task acts) :=
  reports_of_course hstage hacts fun _ _ _ _ hnext hrest =>
    reports_of_course hnext hrest fun hfalse => by cases hfalse

/-! ### An offer that nothing interferes with -/

/-- How an offer goes that nothing else interferes with, from the time on at which a re-INVITE is
sent: what its task hears and does, and the dialog after it. -/
inductive Exchange (task : TaskId) (context : Context) : Option Digest.Agent → Bool → Sip.Request →
    Dialog → List Hearing → List Effect → Dialog → Prop
  | waiting {proxy : Option Digest.Agent} {retried : Bool} {request : Sip.Request}
      {dialog : Dialog} : Exchange task context proxy retried request dialog [] [] dialog
  | ended {proxy : Option Digest.Agent} {retried : Bool} {request : Sip.Request} {dialog : Dialog}
      {delivery : Delivery Sip.Response} {ending : Ending} (hfits : ending.Fits delivery)
      (hending : ending ≠ .accepted) :
      Exchange task context proxy retried request dialog [.reply delivery]
        (conclusion task ⟨context, ending⟩) dialog
  | acknowledged {proxy : Option Digest.Agent} {retried : Bool} {request : Sip.Request}
      {dialog : Dialog} {response : Sip.Response} (ack : Sip.Request)
      (hstatus : response.status = 200) :
      Exchange task context proxy retried request dialog [.reply (.done response)]
        [.acknowledge task ack] (commit request response dialog)
  | accepted {proxy : Option Digest.Agent} {retried : Bool} {request : Sip.Request}
      {dialog : Dialog} {response : Sip.Response} (ack : Sip.Request)
      (hstatus : response.status = 200) :
      Exchange task context proxy retried request dialog [.reply (.done response), .acked]
        (.acknowledge task ack :: conclusion task ⟨context, .accepted⟩)
        (commit request response dialog)
  | again {proxy later : Option Digest.Agent} {request next : Sip.Request} {dialog last : Dialog}
      {agent answering : Digest.Agent} {response : Sip.Response} {effects log : List Effect}
      {heard : List Hearing} {patience : Duration} (hstatus : response.status = 407)
      (hproxy : proxy = some agent)
      (hchallenge : agent.readChallenge response "Proxy-Authenticate" = .ok answering)
      (hcounts : CountsOnly effects)
      (hrest : Exchange task context later true next dialog.advance heard log last) :
      Exchange task context proxy false request dialog (.reply (.done response) :: heard)
        (effects ++ .send task next patience :: log) last

/-- An offer that nothing else interferes with goes so, if one that is made again does. -/
theorem exchange_of_course {acts : List Act} {dialog : Dialog}
    (hstage : s.stage? task = some (.offering request context retried))
    (hacts : ∀ act ∈ acts, act.task? = some task ∧ ¬ act.Begins task)
    (hdialog : s.dialog = some dialog) (hread : dialog.read.isOk = true)
    (hagain : retried = false → ∀ (n : Service) (next : Sip.Request) (rest : List Act),
      n.stage? task = some (.offering next context true) →
      (∀ act ∈ rest, act.task? = some task ∧ ¬ act.Begins task) →
      n.dialog = some dialog.advance → dialog.advance.read.isOk = true →
      ∃ last, (n.after rest).dialog = some last ∧
        Exchange task context n.proxy true next dialog.advance (n.heard task rest)
          (n.log task rest) last) :
    ∃ last, (s.after acts).dialog = some last ∧
      Exchange task context s.proxy retried request dialog (s.heard task acts) (s.log task acts)
        last := by
  rcases offering_course hstage fun act hact => (hacts act hact).2 with
    hrests | ⟨before, delivery, n, effects, rest, hmem, hrests, honward, hlog, hheard, hafter⟩
  · refine ⟨dialog, ?_, ?_⟩
    · rw [hrests.alone fun act hact => (hacts act hact).1, hdialog]
    · rw [hrests.log, hrests.heard]
      exact .waiting
  · rw [hrests.alone fun act hact => (hacts act (hmem act (.inl hact))).1] at honward
    have hmine : ∀ act ∈ rest, act.task? = some task :=
      fun act hact => (hacts act (hmem act (.inr hact))).1
    have hbegins : ∀ act ∈ rest, ¬ act.Begins task :=
      fun act hact => (hacts act (hmem act (.inr hact))).2
    have hunreadable (hunread : ∀ dialog, s.dialog = some dialog → dialog.read.isOk = false) :
        False := Bool.noConfusion (hread.symm.trans (hunread dialog hdialog))
    cases honward with
    | ended ending hfits hending =>
      have hgone := s.rests_withoutTask task hbegins
      refine ⟨dialog, ?_, ?_⟩
      · rw [hafter, hgone.alone hmine]
        exact hdialog
      · rw [hlog, hheard, hgone.log, hgone.heard, List.append_nil]
        exact .ended hfits hending
    | @acknowledged response m ack hstatus hcommitted =>
      rw [hdialog] at hcommitted
      refine ⟨commit request response dialog, ?_⟩
      rcases acking_course (m.stage?_withTask_self task _) hbegins with
        hrests | ⟨hlast, hacked, hsame⟩
      · rw [hafter, hlog, hheard, hrests.alone hmine, hrests.log, hrests.heard]
        exact ⟨hcommitted, .acknowledged ack hstatus⟩
      · rw [hafter, hlog, hheard, hsame hmine, hlast, hacked]
        exact ⟨hcommitted, .accepted ack hstatus⟩
    | unacknowledged hstatus hunread => exact (hunreadable hunread).elim
    | @again response m next counts agent answering hretried hstatus hproxy hchallenge hadvanced
        hcounts =>
      rw [hdialog] at hadvanced
      have hreadAgain : dialog.advance.read.isOk = true :=
        (congrArg Except.isOk (Dialog.read_congr rfl rfl rfl rfl)).trans hread
      obtain ⟨last, hlast, hexchange⟩ := hagain hretried
        (m.withTask task (.offering next context true)) next rest (m.stage?_withTask_self task _)
        (fun act hact => ⟨hmine act hact, hbegins act hact⟩) hadvanced hreadAgain
      refine ⟨last, by rw [hafter, hlast], ?_⟩
      subst hretried
      rw [hlog, hheard, List.append_assoc]
      exact .again hstatus hproxy hchallenge hcounts hexchange
    | unbuilt hstatus hunread hcounts => exact (hunreadable hunread).elim

/-- An offer that nothing else interferes with goes so. -/
theorem exchange_of_offering {acts : List Act} {dialog : Dialog}
    (hstage : s.stage? task = some (.offering request context false))
    (hacts : ∀ act ∈ acts, act.task? = some task ∧ ¬ act.Begins task)
    (hdialog : s.dialog = some dialog) (hread : dialog.read.isOk = true) :
    ∃ last, (s.after acts).dialog = some last ∧
      Exchange task context s.proxy false request dialog (s.heard task acts) (s.log task acts)
        last := by
  refine exchange_of_course hstage hacts hdialog hread fun _ n next rest hnext hrest hadvanced
    hreadAgain => ?_
  exact exchange_of_course hnext hrest hadvanced hreadAgain fun hfalse => by cases hfalse

/-! ### The account of an offer -/

/-- What an offer comes to, by the re-INVITEs that were sent after the first one and the replies
that were heard. -/
structure Account (task : TaskId) (context : Context) (request : Sip.Request)
    (again : List Sip.Request) (replies : List (Delivery Sip.Response)) (heard : List Hearing)
    (log : List Effect) (dialog last : Dialog) : Prop where
  /-- It is not returned from as long as the last re-INVITE has no reply, or the transport has not
  taken the ACK of its 200. -/
  isOpen : log.filterMap Effect.outcome? = [] ↔ replies.length ≤ again.length ∨
    (∃ reply, replies.getLast? = some reply ∧ reply.HasStatus 200) ∧ Hearing.acked ∉ heard
  /-- It is accepted by a 200, rejected by a 603, timed out by a 408, and has failed otherwise. -/
  ending : ∀ outcome ∈ log.filterMap Effect.outcome?, outcome.context = context ∧
    ∃ reply, replies.getLast? = some reply ∧
      (outcome.ending = .accepted ↔ reply.HasStatus 200) ∧
      (∀ status, outcome.ending = .rejected status ↔ status = 603 ∧ reply.HasStatus 603) ∧
      (outcome.ending = .timedOut ↔ reply.HasStatus 408) ∧
      ((∃ error, outcome.ending = .failed error) ↔
        ¬ reply.HasStatus 200 ∧ ¬ reply.HasStatus 603 ∧ ¬ reply.HasStatus 408)
  /-- A 200 is acknowledged once, and goes into the dialog. -/
  accepted : ∀ response, replies.getLast? = some (.done response) → response.status = 200 →
    (∃ ack, log.filterMap Effect.acknowledged? = [(task, ack)]) ∧
      last =
        { dialog with
          cSeq := dialog.cSeq + again.length
          remoteTag := (Sip.Headers.toTag? response.headers).or dialog.remoteTag
          localContent := (again.getLastD request).content?.or dialog.localContent
          remoteContent := response.content?.or dialog.remoteContent }
  /-- Otherwise nothing is acknowledged, and the dialog keeps all but its number. -/
  refused : (∀ response, replies.getLast? = some (.done response) → response.status ≠ 200) →
    log.filterMap Effect.acknowledged? = [] ∧
      last = { dialog with cSeq := dialog.cSeq + again.length }

variable {proxy : Option Digest.Agent} {current : Sip.Request} {base dialog last : Dialog}
  {heard : List Hearing} {log : List Effect}

/-- One more re-INVITE is sent at most, and only after a challenge of the proxy that was read. -/
theorem Exchange.sent (h : Exchange task context proxy retried current dialog heard log last) :
    (retried = true → log.filterMap Effect.sent? = []) ∧
      (log.filterMap Effect.sent?).length ≤ 1 ∧
      (log.filterMap Effect.sent? ≠ [] → ∃ first agent answering,
        (heard.filterMap Hearing.reply?).head? = some (.done first) ∧ first.status = 407 ∧
          proxy = some agent ∧ agent.readChallenge first "Proxy-Authenticate" = .ok answering) := by
  induction h with
  | waiting | acknowledged | accepted => exact ⟨fun _ => rfl, Nat.zero_le 1, absurd rfl⟩
  | ended => simp
  | @again _ _ _ next _ _ agent answering response effects log _ patience hstatus hproxy hchallenge
      hcounts _ ih =>
    have hnext : (effects ++ .send task next patience :: log).filterMap Effect.sent? =
        [next] := by
      rw [List.filterMap_append, hcounts.filterMap fun _ _ => rfl, List.nil_append]
      exact congrArg (next :: ·) (ih.1 rfl)
    rw [hnext]
    refine ⟨fun hfalse => (by cases hfalse), Nat.le_refl 1, fun _ => ?_⟩
    exact ⟨response, agent, answering, rfl, hstatus, hproxy, hchallenge⟩

/-- What an offer comes to from the time on at which some re-INVITEs were sent again, one for each
reply, and no reply was a 200. -/
theorem Exchange.account (h : Exchange task context proxy retried current dialog heard log last)
    {again : List Sip.Request} {replies : List (Delivery Sip.Response)}
    (hcurrent : again.getLastD request = current) (hlength : replies.length = again.length)
    (hdialog : dialog = { base with cSeq := base.cSeq + again.length })
    (hreplies : ∀ reply ∈ replies, ¬ reply.HasStatus 200) :
    Account task context request (again ++ log.filterMap Effect.sent?)
      (replies ++ heard.filterMap Hearing.reply?) heard log base last := by
  induction h generalizing again replies with
  | waiting =>
    refine ⟨?_, by simp, fun response hlast hstatus => ?_, fun _ => ?_⟩
    · simp [hlength]
    · have hmem := List.mem_of_getLast? (by simpa using hlast)
      exact absurd ⟨response, rfl, hstatus⟩ (hreplies _ hmem)
    · exact ⟨rfl, by simpa using hdialog⟩
  | @ended _ _ _ _ delivery ending hfits hending =>
    have hrefused : ¬ delivery.HasStatus 200 := fun hstatus => hending (hfits.iff.1.mpr hstatus)
    have hlast : (replies ++ [Hearing.reply delivery].filterMap Hearing.reply?).getLast? =
        some delivery := by simp [Hearing.reply?]
    refine ⟨?_, ?_, ?_, ?_⟩
    · simp [Hearing.reply?, hrefused, hlength]
    · simpa [hlast] using hfits.iff
    · intro response hresponse hstatus
      cases hlast.symm.trans hresponse
      exact absurd ⟨response, rfl, hstatus⟩ hrefused
    · exact fun _ => ⟨by simp, by simpa using hdialog⟩
  | @acknowledged _ _ _ _ response ack hstatus =>
    have hlast : (replies ++ [Hearing.reply (.done response)].filterMap Hearing.reply?).getLast? =
        some (.done response) := by simp [Hearing.reply?]
    have hsent : again ++ [Effect.acknowledge task ack].filterMap Effect.sent? = again :=
      List.append_nil again
    rw [hsent]
    refine ⟨?_, fun outcome houtcome => (by cases houtcome), ?_, ?_⟩
    · exact iff_of_true rfl (.inr ⟨⟨_, hlast, response, rfl, hstatus⟩, by simp⟩)
    · intro other hother _
      cases hlast.symm.trans hother
      subst hcurrent hdialog
      exact ⟨⟨ack, rfl⟩, rfl⟩
    · exact fun hother => absurd hstatus (hother response hlast)
  | @accepted _ _ _ _ response ack hstatus =>
    have hlast : (replies ++
        [Hearing.reply (.done response), .acked].filterMap Hearing.reply?).getLast? =
          some (.done response) := by simp [List.filterMap_cons, Hearing.reply?]
    have hsent : again ++ (Effect.acknowledge task ack ::
        conclusion task ⟨context, .accepted⟩).filterMap Effect.sent? = again :=
      List.append_nil again
    rw [hsent]
    refine ⟨?_, fun outcome houtcome => ?_, ?_, ?_⟩
    · refine iff_of_false (List.cons_ne_nil _ _) ?_
      rintro (hfewer | ⟨_, hacked⟩)
      · have hone :
            ([Hearing.reply (.done response), .acked].filterMap Hearing.reply?).length = 1 := rfl
        rw [List.length_append, hone, hlength] at hfewer
        exact absurd hfewer (Nat.not_succ_le_self _)
      · exact hacked (by simp)
    · obtain rfl := List.mem_singleton.mp houtcome
      exact ⟨rfl, _, hlast, Ending.Fits.iff ⟨response, rfl, hstatus⟩⟩
    · intro other hother _
      cases hlast.symm.trans hother
      subst hcurrent hdialog
      exact ⟨⟨ack, rfl⟩, rfl⟩
    · exact fun hother => absurd hstatus (hother response hlast)
  | @again _ _ _ next current last _ _ response effects log heard patience hstatus _ _ hcounts _
      ih =>
    have hskip {α : Type} (select : Effect → Option α)
        (hcount : ∀ callId cSeq, select (.advancePeer callId cSeq) = none) :
        (effects ++ .send task next patience :: log).filterMap select =
          (.send task next patience :: log).filterMap select := by
      rw [List.filterMap_append, hcounts.filterMap hcount, List.nil_append]
    have houtcomes : (effects ++ .send task next patience :: log).filterMap Effect.outcome? =
        log.filterMap Effect.outcome? := hskip _ fun _ _ => rfl
    have hacknowledged :
        (effects ++ .send task next patience :: log).filterMap Effect.acknowledged? =
          log.filterMap Effect.acknowledged? := hskip _ fun _ _ => rfl
    have hsent : (effects ++ .send task next patience :: log).filterMap Effect.sent? =
        next :: log.filterMap Effect.sent? := hskip _ fun _ _ => rfl
    have hacked : Hearing.acked ∉ Hearing.reply (.done response) :: heard ↔ .acked ∉ heard := by
      simp
    have hadvanced : current.advance =
        { base with cSeq := base.cSeq + (again ++ [next]).length } := by
      rw [hdialog, List.length_append]
      rfl
    have hrest : Account task context request ((again ++ [next]) ++ log.filterMap Effect.sent?)
        ((replies ++ [.done response]) ++ heard.filterMap Hearing.reply?) heard log base last :=
      ih (by simp) (by simp [hlength]) hadvanced
        (List.forall_mem_append.mpr ⟨hreplies, by simp [hstatus]⟩)
    rw [List.append_assoc, List.append_assoc] at hrest
    rw [hsent]
    exact {
      isOpen := by rw [houtcomes, hacked]; exact hrest.isOpen
      ending := houtcomes ▸ hrest.ending
      accepted := hacknowledged ▸ hrest.accepted
      refused := hacknowledged ▸ hrest.refused }

/-- **The last reply ends an offer.** Let a re-INVITE be built on a session and at any later time be
sent, and let nothing else be done to the session meanwhile, whatever the transport makes of what it
is handed. Then one more re-INVITE is sent at most, and only after the proxy challenged the first
one and the challenge was read. The last reply ends the offer: a 200 accepts it, a 603 rejects it, a
408 lets it time out, and anything else makes it fail. It is returned from once, when the last reply
is there and the ACK of a 200 was taken; the listener is told so once, and before that of the
failure if it is one. A 200 is acknowledged once, and both descriptions and the tag of the far end
go into the dialog; otherwise the dialog keeps all but its number, which counts the re-INVITE that
was sent again. Each reply is awaited for the transaction time, and one that comes later is none. -/
theorem offer_ends_by_last_reply {s₀ : Service} {offer : Description} {request : Sip.Request}
    (hmade : (s₀.createReinvite offer).2.2 = .ok request) {between : List Act} {s : Service}
    (hs : s₀.after (.created offer :: between) = s) {task : TaskId} {rest : List Act}
    (hrest : ∀ act ∈ rest, act.task? = some task ∧ ¬ act.Begins task) (context : Context)
    (now : Instant) :
    let run := .happened now (.offered task request context) :: rest
    let replies := (s.heard task run).filterMap Hearing.reply?
    ∃ dialog last again, s.dialog = some dialog ∧ (s.after run).dialog = some last ∧
      (s.log task run).filterMap Effect.sent? = request :: again ∧ again.length ≤ 1 ∧
      (again ≠ [] → ∃ first agent answering, replies.head? = some (.done first) ∧
        first.status = 407 ∧ s.proxy = some agent ∧
          agent.readChallenge first "Proxy-Authenticate" = .ok answering) ∧
      Reports (s.log task run) ∧
      Account task context request again replies (s.heard task run) (s.log task run) dialog last ∧
      ∀ patience ∈ (s.log task run).filterMap Effect.patience?,
        patience = s.settings.transactionTime ∧
          ∀ (scripted : Simulation.ScriptedReply) (sent : Sip.Request),
            patience.wholeMilliseconds < scripted.delay →
              Simulation.SessionRun.World.deliveryOf
                (scripted.arrival sent patience.wholeMilliseconds).2 = .none := by
  intro run replies
  have hmember : request ∈ (s₀.after []).made (.created offer) := by simp [made, hmade]
  obtain ⟨_, dialog, _, hdialog, hread, _⟩ := dialog_after_made hmember between
  rw [List.nil_append, hs] at hdialog
  -- From its first event on, the task waits for the reply to the first re-INVITE.
  generalize hwaiting : s.withTask task (.offering request context false) = waiting
  have hstage : waiting.stage? task = some (.offering request context false) := by simp [← hwaiting]
  have hproxy : waiting.proxy = s.proxy := by rw [← hwaiting]; rfl
  have hstep : s.step now (.offered task request context) =
      (waiting, [.send task request s.settings.transactionTime]) := by
    rw [← hwaiting]
    rfl
  obtain ⟨hlog, hheard, hafter⟩ :
      s.log task run =
          .send task request s.settings.transactionTime :: waiting.log task rest ∧
        s.heard task run = waiting.heard task rest ∧ s.after run = waiting.after rest := by
    have hcourse := s.course_of_event now
      (show (Event.offered task request context).task = task from rfl) rest
    rwa [hstep] at hcourse
  obtain ⟨last, hlast, hexchange⟩ :=
    exchange_of_offering hstage hrest ((congrArg Service.dialog hwaiting).symm.trans hdialog) hread
  obtain ⟨_, honce, hagain⟩ := hexchange.sent
  have haccount : Account task context request
      ([] ++ (waiting.log task rest).filterMap Effect.sent?)
      ([] ++ (waiting.heard task rest).filterMap Hearing.reply?) (waiting.heard task rest)
      (waiting.log task rest) dialog last :=
    hexchange.account rfl rfl rfl (List.forall_mem_nil _)
  refine ⟨dialog, last, _, hdialog, hafter ▸ hlast, ?_, honce, ?_, ?_, ?_, ?_⟩
  · rw [hlog]
    rfl
  · intro hmore
    simpa only [replies, hheard, hproxy] using hagain hmore
  · rw [hlog, ← List.singleton_append]
    exact .append rfl rfl (reports_of_offering hstage fun act hact => (hrest act hact).2)
  · simp only [replies, hheard, hlog]
    exact ⟨haccount.isOpen, haccount.ending, haccount.accepted, haccount.refused⟩
  · refine fun patience hpatience => ⟨s.patient_log task run patience hpatience, ?_⟩
    intro scripted sent hlate
    rw [scripted.arrival_late sent hlate]
    rfl

/-- A 200 with the tag of the far end and its description, for the example. -/
def sampleAcceptance : Sip.Response where
  status := 200
  headers := [.recipient { uri := .web "http://a" "a", params := [.tag (.given "far")] }]
  body := .text "v=1"

/-- In the example, the proxy challenges the offer, and the far end accepts the one that is made
again. -/
theorem challenged_offer_accepted_in_sample :
    let s := sampleProxied.after [.created {}]
    let run : List Act :=
      [.happened 0 (.offered 0 (sampleMade {}) .mediaUpdate),
        .happened 1 (.replied 0 (.done sampleChallenge)),
        .happened 2 (.replied 0 (.done sampleAcceptance)), .happened 3 (.acked 0)]
    (sampleProxied.createReinvite {}).2.2 = .ok (sampleMade {}) ∧
      (s.log 0 run).filterMap Effect.told? = [.updated ⟨.mediaUpdate, .accepted⟩] ∧
      ∃ again ack last, (s.log 0 run).filterMap Effect.sent? = [sampleMade {}, again] ∧
        (s.log 0 run).filterMap Effect.acknowledged? = [(0, ack)] ∧
        (s.after run).dialog = some last ∧ last.cSeq = 3 ∧ last.remoteTag = some (.given "far") ∧
        last.remoteContent = some "v=1" := by
  intro s run
  have hmade : (sampleProxied.createReinvite {}).2.2 = .ok (sampleMade {}) := by decide +kernel
  have hs : sampleProxied.after (.created {} :: []) = s := rfl
  have hrest : ∀ act ∈ run.tail, act.task? = some 0 ∧ ¬ act.Begins 0 := by
    simp [run, Act.task?, Act.Begins, Event.task, Event.begins]
  have hreplies : ((s.heard 0 run).filterMap Hearing.reply?).getLast? =
      some (.done sampleAcceptance) := by decide +kernel
  have hended : (s.log 0 run).filterMap Effect.outcome? = [⟨.mediaUpdate, .accepted⟩] := by
    decide +kernel
  have hcount : ((s.log 0 run).filterMap Effect.sent?).length = 2 := by decide +kernel
  have hnumber : s.dialog.map Dialog.cSeq = some 2 := by decide +kernel
  obtain ⟨dialog, last, again, hdialog, hlast, hsent, _, _, hreports, haccount, _⟩ :=
    offer_ends_by_last_reply hmade hs hrest .mediaUpdate 0
  rw [show Act.happened 0 _ :: run.tail = run from rfl] at hlast hsent hreports haccount
  obtain ⟨⟨ack, hack⟩, rfl⟩ := haccount.accepted sampleAcceptance hreplies rfl
  obtain ⟨next, rfl⟩ : ∃ next, again = [next] := by
    rw [hsent] at hcount
    exact List.length_eq_one_iff.mp (Nat.succ.inj hcount)
  rw [hdialog] at hnumber
  refine ⟨hmade, by rw [hreports.told, hended]; rfl, next, ack, _, hsent, hack, hlast, ?_, rfl, rfl⟩
  exact congrArg (· + 1) (Option.some.inj hnumber)

end Service

end ImsClient.Session
