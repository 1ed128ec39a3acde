import ImsClient.Proofs.Session.Run

/-!
# Which re-INVITE an ACK is for

The ACK for a 200 is built of the dialog as it stands when the 200 comes. Every
re-INVITE that is built moves the dialog on by one, and nothing else does; so the ACK
has the number of the re-INVITE that was built last, which is the one that was
answered only if no other one was built since.
-/

namespace ImsClient.Session.Service

/-! ### What neither sends nor acknowledges -/

variable {s s' : Service} {result : Service × List Effect}

/-- With the same dialog, only the effects count. -/
theorem Quiet.of_same (hdialog : result.1.dialog = s.dialog)
    (hsent : result.2.filterMap Effect.sent? = [])
    (hacknowledged : result.2.filterMap Effect.acknowledged? = []) : s.Quiet result :=
  ⟨fun dialog h => ⟨dialog, hdialog.trans h, .refl dialog⟩, hsent, hacknowledged⟩

/-- What is quiet for a session is quiet for another one with the same dialog. -/
theorem Quiet.of_dialog (h : s'.Quiet result) (hdialog : s'.dialog = s.dialog) : s.Quiet result :=
  ⟨fun dialog hs => h.dialog dialog (hdialog.trans hs), h.sent, h.acknowledged⟩

/-- What is quiet after the contents of the dialog changed is quiet. -/
theorem Quiet.of_change (change : Dialog → Dialog)
    (hchange : ∀ dialog : Dialog, dialog.Advances (change dialog) 0)
    (h : (s.updateDialog change).Quiet result) : s.Quiet result := by
  refine ⟨fun dialog hs => ?_, h.sent, h.acknowledged⟩
  obtain ⟨next, hnext, hadvances⟩ := h.dialog (change dialog) (by simp [updateDialog, hs])
  exact ⟨next, hnext, (hchange dialog).trans hadvances⟩

/-- To end a renegotiation is quiet. -/
theorem conclude_quiet (s : Service) (task : TaskId) (outcome : Outcome) :
    s.Quiet (s.conclude task outcome) := .of_same rfl rfl rfl

/-- To end one by a failure is quiet. -/
theorem concludeFailed_quiet (s : Service) (task : TaskId) (context : Context) (error : Error) :
    s.Quiet (s.concludeFailed task context error) := .of_same rfl rfl rfl

/-- To end the acceptance of a re-INVITE is quiet. -/
theorem concludeAcceptance_quiet (s : Service) (task : TaskId) (answering : Option Context)
    (ended : Except Error Unit) : s.Quiet (s.concludeAcceptance task answering ended) := by
  unfold concludeAcceptance
  split <;> exact .of_same rfl rfl rfl

/-- To accept a re-INVITE is quiet. -/
theorem sendAcceptance_quiet (s : Service) (task : TaskId) (request : Sip.Request)
    (reply : Description) (answering : Option Context) :
    s.Quiet (s.sendAcceptance task request reply answering) := by
  unfold sendAcceptance
  cases hdialog : s.dialog with
  | none => exact s.concludeAcceptance_quiet task answering _
  | some dialog =>
    dsimp only
    split
    · refine Quiet.of_change (fun dialog =>
        { dialog with
          remoteContent := request.content?.or dialog.remoteContent
          localContent := some reply.content }) (fun _ => ⟨rfl, rfl, rfl, rfl, rfl, rfl⟩) ?_
      simp only [updateDialog, hdialog, Option.map_some]
      split
      · exact concludeAcceptance_quiet _ task answering _
      · exact .of_same rfl rfl rfl
    · exact s.concludeAcceptance_quiet task answering _

/-- To refuse one is quiet. -/
theorem refuse_quiet (s : Service) (task : TaskId) (request : Sip.Request) (status : Nat)
    (outcome : Outcome) : s.Quiet (s.refuse task request status outcome) := by
  unfold refuse
  split
  · exact s.conclude_quiet task _
  · split
    · exact s.conclude_quiet task _
    · exact .of_same rfl rfl rfl

/-- To look at the decision is quiet. -/
theorem look_quiet (s : Service) (now : Instant) (task : TaskId) : s.Quiet (s.look now task) := by
  unfold look
  split
  · split
    · unfold carryOut
      split
      · exact s.sendAcceptance_quiet ..
      · exact s.refuse_quiet ..
      · exact s.refuse_quiet ..
    · exact .of_same rfl rfl rfl
  · split <;> exact .of_same rfl rfl rfl
  · exact .of_same rfl rfl rfl

/-- To go on after a response was handed over is quiet. -/
theorem takeResponded_quiet (s : Service) (task : TaskId) (responding : Responding)
    (ended : Except Error Unit) : s.Quiet (s.takeResponded task responding ended) := by
  unfold takeResponded
  split
  · exact .of_same rfl rfl rfl
  · exact s.concludeAcceptance_quiet ..
  · exact s.conclude_quiet ..
  · exact s.conclude_quiet ..

/-- To go on after an ACK was awaited is quiet. -/
theorem takeConfirmation_quiet (s : Service) (task : TaskId) (answering : Option Context)
    (delivery : Delivery Unit) : s.Quiet (s.takeConfirmation task answering delivery) := by
  unfold takeConfirmation
  split <;> exact s.concludeAcceptance_quiet ..

/-- To move on to a state is quiet. -/
theorem setState_quiet {target : State} (h : s.setState target = .ok result) : s.Quiet result := by
  unfold setState at h
  split at h
  · cases h
    exact .of_same rfl rfl rfl
  · cases hcheck : s.state.check target with
    | error e =>
      rw [hcheck] at h
      cases h
    | ok u =>
      rw [hcheck] at h
      cases h
      refine Quiet.of_change (mark target) (fun dialog => ?_) (.of_same rfl rfl rfl)
      cases target <;> exact ⟨rfl, rfl, rfl, rfl, rfl, rfl⟩

/-! ### Building -/

/-- Credentials for the proxy change neither the dialog nor which dialog a request is one of. -/
theorem authorize_spec (s : Service) (request : Sip.Request) :
    (s.authorize request).1.dialog = s.dialog ∧
      ∀ dialog : Dialog, dialog.Carries request → dialog.Carries (s.authorize request).2 := by
  have hname (value : String) :
      (Sip.Header.ofText "Proxy-Authorization" value).name ∉ Dialog.identifying := by
    show Sip.HeaderName.canonical "Proxy-Authorization" ∉ Dialog.identifying
    decide +kernel
  unfold authorize
  split
  · exact ⟨rfl, fun _ h => h⟩
  · dsimp only
    split
    · exact ⟨rfl, fun _ h => h.replace (hname _)⟩
    · exact ⟨rfl, fun _ h => h⟩

/-- To move the transport's count keeps the dialog, and neither sends nor acknowledges. -/
theorem advancePeer_spec (s : Service) (callId : Identifier) (cSeq : Nat) :
    (s.advancePeer callId cSeq).1.dialog = s.dialog ∧
      (s.advancePeer callId cSeq).2.filterMap Effect.sent? = [] ∧
      (s.advancePeer callId cSeq).2.filterMap Effect.acknowledged? = [] := by
  unfold advancePeer
  split
  · split <;> exact ⟨rfl, rfl, rfl⟩
  · exact ⟨rfl, rfl, rfl⟩

/-- To build a re-INVITE moves the dialog on by one, and gives a request of it if the texts of the
dialog can be read. -/
theorem createReinvite_spec {dialog : Dialog} (offer : Description)
    (hdialog : s.dialog = some dialog) :
    (s.createReinvite offer).1.dialog = some dialog.advance ∧
      (s.createReinvite offer).2.1.filterMap Effect.sent? = [] ∧
      (s.createReinvite offer).2.1.filterMap Effect.acknowledged? = [] ∧
      (s.createReinvite offer).2.2.isOk = dialog.read.isOk ∧
      ∀ request, (s.createReinvite offer).2.2 = .ok request →
        dialog.advance.Carries request := by
  unfold createReinvite
  simp only [hdialog]
  have hpeer := { s with dialog := some dialog.advance }.advancePeer_spec dialog.advance.callId
    dialog.advance.cSeq
  generalize { s with dialog := some dialog.advance }.advancePeer dialog.advance.callId
    dialog.advance.cSeq = peered at hpeer ⊢
  obtain ⟨next, effects⟩ := peered
  obtain ⟨hnext, hsent, hacknowledged⟩ := hpeer
  dsimp only at hnext hsent hacknowledged ⊢
  obtain ⟨hok, hcarries⟩ := dialog.advance.reinvite_spec next.bound offer.featureTags offer.content
    next.supply
  have hread : dialog.advance.read = dialog.read := Dialog.read_congr rfl rfl rfl rfl
  rw [hread] at hok
  cases hmade : dialog.advance.reinvite next.bound offer.featureTags offer.content next.supply with
  | error e =>
    rw [hmade] at hok
    exact ⟨hnext, hsent, hacknowledged, hok, by rintro _ ⟨⟩⟩
  | ok made =>
    obtain ⟨made, supply⟩ := made
    rw [hmade] at hok
    obtain ⟨hsame, hkept⟩ := { next with supply }.authorize_spec made
    refine ⟨hsame.trans hnext, hsent, hacknowledged, hok, ?_⟩
    rintro _ ⟨⟩
    exact hkept _ (hcarries _ _ hmade)

/-- Without a dialog, none is built. -/
theorem createReinvite_of_no_dialog (offer : Description) (hdialog : s.dialog = none) :
    s.createReinvite offer = (s, [], .error noDialog) := by
  simp only [createReinvite, hdialog]

/-! ### What is built, and what is acknowledged -/

/-- How a session comes to a result by building some re-INVITEs, one at most: they move the dialog
on, one number each, and are requests of the dialog there is then. -/
structure Builds (s : Service) (next : Service) (made : List Sip.Request) : Prop where
  dialog : ∀ dialog, s.dialog = some dialog → dialog.read.isOk = true →
    ∃ after, next.dialog = some after ∧ dialog.Advances after made.length
  carries : ∀ request ∈ made, ∃ after, next.dialog = some after ∧ after.Carries request ∧
    after.read.isOk = true

/-- What is quiet builds nothing. -/
theorem Quiet.builds (h : s.Quiet result) :
    s.Builds result.1 (result.2.filterMap Effect.sent?) := by
  rw [h.sent]
  exact ⟨fun dialog hs _ => h.dialog dialog hs, fun request hrequest => by cases hrequest⟩

/-- With the same dialog, nothing was built. -/
theorem Builds.of_same {next : Service} (hdialog : next.dialog = s.dialog) : s.Builds next [] :=
  ⟨fun dialog hs _ => ⟨dialog, hdialog.trans hs, .refl dialog⟩,
    fun request hrequest => by cases hrequest⟩

/-- To build a re-INVITE builds that one. -/
theorem createReinvite_builds (s : Service) (offer : Description) :
    s.Builds (s.createReinvite offer).1
      (match (s.createReinvite offer).2.2 with
        | .ok request => [request]
        | .error _ => []) := by
  cases hdialog : s.dialog with
  | none =>
    rw [createReinvite_of_no_dialog offer hdialog]
    exact .of_same rfl
  | some dialog =>
    obtain ⟨hnext, _, _, hok, hcarries⟩ := createReinvite_spec offer hdialog
    cases hmade : (s.createReinvite offer).2.2 with
    | error e =>
      rw [hmade] at hok
      refine ⟨fun other hother hread => ?_, fun request hrequest => by cases hrequest⟩
      cases hdialog.symm.trans hother
      rw [hread] at hok
      cases hok
    | ok request =>
      rw [hmade] at hok
      refine ⟨fun other hother hread => ?_, fun other hother => ?_⟩
      · cases hdialog.symm.trans hother
        exact ⟨dialog.advance, hnext, rfl, rfl, rfl, rfl, rfl, rfl⟩
      · rw [List.mem_singleton.mp hother]
        exact ⟨dialog.advance, hnext, hcarries request hmade, hok.symm⟩

/-- To build a re-INVITE neither sends nor acknowledges one. -/
theorem createReinvite_silent (s : Service) (offer : Description) :
    (s.createReinvite offer).2.1.filterMap Effect.sent? = [] ∧
      (s.createReinvite offer).2.1.filterMap Effect.acknowledged? = [] := by
  cases hdialog : s.dialog with
  | none =>
    rw [createReinvite_of_no_dialog offer hdialog]
    exact ⟨rfl, rfl⟩
  | some dialog =>
    obtain ⟨_, hsent, hacknowledged, _⟩ := createReinvite_spec offer hdialog
    exact ⟨hsent, hacknowledged⟩

/-- The challenge of the proxy is answered by a re-INVITE that is built for it and sent, or not at
all; nothing is acknowledged. -/
theorem answerProxy_spec (s : Service) (task : TaskId) (request : Sip.Request) (context : Context)
    (response : Sip.Response) :
    s.Builds (s.answerProxy task request context response).1
        ((s.answerProxy task request context response).2.filterMap Effect.sent?) ∧
      (s.answerProxy task request context response).2.filterMap Effect.acknowledged? = [] := by
  have hfailed (error : Error) := s.concludeFailed_quiet task context error
  unfold answerProxy
  split
  · exact ⟨(hfailed _).builds, (hfailed _).acknowledged⟩
  · split
    · exact ⟨(hfailed _).builds, (hfailed _).acknowledged⟩
    · rename_i agent _
      dsimp only
      generalize (⟨s.featureTags, request.content?.getD ""⟩ : Description) = again
      have hbuilds := { s with proxy := some agent }.createReinvite_builds again
      have hsilent := { s with proxy := some agent }.createReinvite_silent again
      generalize { s with proxy := some agent }.createReinvite again = created at hbuilds hsilent ⊢
      obtain ⟨next, effects, made⟩ := created
      obtain ⟨hsent, hacknowledged⟩ := hsilent
      dsimp only at hbuilds hsent hacknowledged
      cases made with
      | error e =>
        refine ⟨?_, ?_⟩
        · dsimp only
          rw [List.filterMap_append, hsent]
          exact ⟨hbuilds.dialog, hbuilds.carries⟩
        · dsimp only
          rw [List.filterMap_append, hacknowledged]
          rfl
      | ok made =>
        refine ⟨?_, ?_⟩
        · dsimp only
          rw [List.filterMap_append, hsent]
          exact ⟨hbuilds.dialog, hbuilds.carries⟩
        · dsimp only
          rw [List.filterMap_append, hacknowledged]
          rfl

/-- The ACK for a 200 is a request of the dialog as it stands then, and nothing is built for it. -/
theorem takeAcceptance_spec (s : Service) (task : TaskId) (request : Sip.Request)
    (context : Context) (response : Sip.Response) :
    s.Builds (s.takeAcceptance task request context response).1
        ((s.takeAcceptance task request context response).2.filterMap Effect.sent?) ∧
      ∀ entry ∈ (s.takeAcceptance task request context response).2.filterMap Effect.acknowledged?,
        entry.1 = task ∧ ∃ dialog, s.dialog = some dialog ∧ dialog.Carries entry.2 := by
  unfold takeAcceptance
  cases hdialog : s.dialog with
  | none => exact ⟨(s.conclude_quiet task _).builds, by simp [conclude, Effect.acknowledged?]⟩
  | some dialog =>
    dsimp only
    have hcommitted : s.Quiet ({ s with dialog := some (commit request response dialog) }, []) := by
      refine ⟨fun other hother => ?_, rfl, rfl⟩
      cases hdialog.symm.trans hother
      exact ⟨_, rfl, rfl, rfl, rfl, rfl, rfl, rfl⟩
    cases hack : (commit request response dialog).ack s.bound s.supply with
    | error e =>
      refine ⟨?_, by simp [conclude, Effect.acknowledged?]⟩
      exact ⟨hcommitted.builds.dialog, hcommitted.builds.carries⟩
    | ok made =>
      obtain ⟨ack, supply⟩ := made
      refine ⟨⟨hcommitted.builds.dialog, hcommitted.builds.carries⟩, ?_⟩
      intro entry hentry
      obtain rfl : entry = (task, ack) := by simpa [Effect.acknowledged?] using hentry
      obtain ⟨hcallId, hcSeq, hsender, huri⟩ := (Dialog.carries_of_request hack).1
      exact ⟨rfl, dialog, rfl, hcallId, hcSeq, hsender, huri⟩

/-- What comes of a re-INVITE: one more is built and sent, or it is acknowledged if it was answered
200, or neither. -/
theorem takeReply_spec (s : Service) (task : TaskId) (request : Sip.Request) (context : Context)
    (retried : Bool) (delivery : Delivery Sip.Response) :
    s.Builds (s.takeReply task request context retried delivery).1
        ((s.takeReply task request context retried delivery).2.filterMap Effect.sent?) ∧
      ∀ entry ∈ (s.takeReply task request context retried delivery).2.filterMap
          Effect.acknowledged?,
        (∃ response, delivery = .done response ∧ response.status = 200) ∧ entry.1 = task ∧
          ∃ dialog, s.dialog = some dialog ∧ dialog.Carries entry.2 := by
  have hquiet {result : Service × List Effect} {p : TaskId × Sip.Request → Prop}
      (h : s.Quiet result) : s.Builds result.1 (result.2.filterMap Effect.sent?) ∧
        ∀ entry ∈ result.2.filterMap Effect.acknowledged?, p entry :=
    ⟨h.builds, by simp [h.acknowledged]⟩
  cases delivery with
  | failure e => exact hquiet (s.concludeFailed_quiet ..)
  | none => exact hquiet (s.concludeFailed_quiet ..)
  | done response =>
    simp only [takeReply]
    unfold takeResponse
    split
    · rename_i hstatus
      obtain ⟨hbuilds, hack⟩ := s.takeAcceptance_spec task request context response
      exact ⟨hbuilds, fun entry hentry => ⟨⟨response, rfl, hstatus⟩, hack entry hentry⟩⟩
    · exact hquiet (s.conclude_quiet ..)
    · exact hquiet (s.conclude_quiet ..)
    · split
      · exact hquiet (s.concludeFailed_quiet ..)
      · obtain ⟨hbuilds, hack⟩ := s.answerProxy_spec task request context response
        exact ⟨hbuilds, by simp [hack]⟩
    · exact hquiet (s.concludeFailed_quiet ..)

/-- Where something happens to a task other than a reply to its re-INVITE, nothing is built and
nothing is acknowledged. -/
theorem step_spec (s : Service) (now : Instant) {event : Event}
    (hevent : ∀ task delivery, event ≠ .replied task delivery) :
    s.Builds (s.step now event).1 [] ∧
      (s.step now event).2.filterMap Effect.acknowledged? = [] := by
  have hquiet {result : Service × List Effect} (h : s.Quiet result) :
      s.Builds result.1 [] ∧ result.2.filterMap Effect.acknowledged? = [] :=
    ⟨h.sent ▸ h.builds, h.acknowledged⟩
  cases event with
  | replied task delivery => exact absurd rfl (hevent task delivery)
  | offered task request context => exact ⟨.of_same rfl, rfl⟩
  | received task request reply context =>
    exact hquiet ((look_quiet _ now task).of_dialog rfl)
  | accepted task request reply => exact hquiet (s.sendAcceptance_quiet ..)
  | awaited task period => exact hquiet ((look_quiet _ now task).of_dialog rfl)
  | looked task => exact hquiet (s.look_quiet now task)
  | acked task =>
    simp only [step]
    split
    · exact hquiet (s.conclude_quiet ..)
    · exact ⟨.of_same rfl, rfl⟩
  | responded task result =>
    simp only [step]
    split
    · exact hquiet (s.takeResponded_quiet ..)
    · exact ⟨.of_same rfl, rfl⟩
  | confirmed task result =>
    simp only [step]
    split
    · exact hquiet (s.takeConfirmation_quiet ..)
    · exact ⟨.of_same rfl, rfl⟩

/-! ### Runs -/

/-- Every act builds what it is said to build. -/
theorem act_builds (s : Service) (act : Act) : s.Builds (s.act act).1 (s.made act) := by
  cases act with
  | created offer => exact s.createReinvite_builds offer
  | prepared | accepted | rejected => exact .of_same rfl
  | moved target =>
    simp only [Service.act, made]
    cases hmoved : s.setState target with
    | error e => exact .of_same rfl
    | ok result => exact (setState_quiet hmoved).sent ▸ (setState_quiet hmoved).builds
  | happened now event =>
    by_cases hreply : ∃ task delivery, event = .replied task delivery
    · obtain ⟨task, delivery, rfl⟩ := hreply
      simp only [Service.act, made, step]
      split
      · exact (s.takeReply_spec ..).1
      · exact .of_same rfl
    · have hother : ∀ task delivery, event ≠ .replied task delivery :=
        fun task delivery h => hreply ⟨task, delivery, h⟩
      have hmade : s.made (.happened now event) = [] := by
        cases event with
        | replied task delivery => exact absurd rfl (hother task delivery)
        | _ => rfl
      rw [hmade]
      exact (s.step_spec now hother).1

/-- An ACK is handed over only when the re-INVITE of a task is answered 200, and it is a request of
the dialog as it stands then. -/
theorem act_acknowledges (s : Service) (act : Act) {task : TaskId} {ack : Sip.Request}
    (hack : (task, ack) ∈ (s.act act).2.filterMap Effect.acknowledged?) :
    (∃ now response request context retried,
      act = .happened now (.replied task (.done response)) ∧ response.status = 200 ∧
        s.stage? task = some (.offering request context retried)) ∧
      ∃ dialog, s.dialog = some dialog ∧ dialog.Carries ack := by
  cases act with
  | created offer => simp [Service.act, (s.createReinvite_silent offer).2] at hack
  | prepared | accepted | rejected => cases hack
  | moved target =>
    simp only [Service.act] at hack
    cases hmoved : s.setState target with
    | error e => simp [hmoved] at hack
    | ok result => simp [hmoved, (setState_quiet hmoved).acknowledged] at hack
  | happened now event =>
    by_cases hreply : ∃ other delivery, event = .replied other delivery
    · obtain ⟨other, delivery, rfl⟩ := hreply
      simp only [Service.act, step] at hack
      split at hack
      · rename_i request context retried hstage
        obtain ⟨⟨response, rfl, hstatus⟩, rfl, hdialog⟩ := (s.takeReply_spec ..).2 _ hack
        exact ⟨⟨now, response, request, context, retried, rfl, hstatus, hstage⟩, hdialog⟩
      · cases hack
    · have hother : ∀ other delivery, event ≠ .replied other delivery :=
        fun other delivery h => hreply ⟨other, delivery, h⟩
      simp [Service.act, (s.step_spec now hother).2] at hack

/-- Along a run, the dialog moves on by the number of the re-INVITEs that are built. -/
theorem after_builds (s : Service) (acts : List Act) {dialog : Dialog}
    (hdialog : s.dialog = some dialog) (hread : dialog.read.isOk = true) :
    ∃ next, (s.after acts).dialog = some next ∧ dialog.Advances next (s.built acts).length := by
  induction acts generalizing s dialog with
  | nil => exact ⟨dialog, hdialog, .refl dialog⟩
  | cons act acts ih =>
    obtain ⟨middle, hmiddle, hfirst⟩ := (s.act_builds act).dialog dialog hdialog hread
    obtain ⟨next, hnext, hrest⟩ := ih (s.act act).1 hmiddle (hfirst.read ▸ hread)
    refine ⟨next, hnext, ?_⟩
    rw [built, along_cons, List.length_append]
    exact hfirst.trans hrest

/-- After a re-INVITE was built, the session has a dialog whose texts can be read, and which comes
from the one that the re-INVITE is a request of by the re-INVITEs that were built since. -/
theorem dialog_after_made {s : Service} {before : List Act} {building : Act}
    {request : Sip.Request} (hmade : request ∈ (s.after before).made building)
    (between : List Act) :
    ∃ dialog next : Dialog, dialog.Carries request ∧
      (s.after (before ++ building :: between)).dialog = some next ∧ next.read.isOk = true ∧
      dialog.Advances next ((s.after (before ++ [building])).built between).length := by
  obtain ⟨dialog, hdialog, hrequest, hread⟩ :=
    ((s.after before).act_builds building).carries request hmade
  have hbuilt : s.after (before ++ [building]) = ((s.after before).act building).1 :=
    s.after_append before [building]
  rw [← hbuilt] at hdialog
  obtain ⟨next, hnext, hadvances⟩ :=
    (s.after (before ++ [building])).after_builds between hdialog hread
  rw [← after_append, List.append_assoc, List.singleton_append] at hnext
  exact ⟨dialog, next, hrequest, hnext, hadvances.read ▸ hread, hadvances⟩

/-- **Every 200 is acknowledged.** If a re-INVITE was built on the session, then its 200 is answered
by one ACK, whatever else was done in between. -/
theorem acknowledged_of_answered {s : Service} {before between : List Act} {building : Act}
    {request : Sip.Request} (hmade : request ∈ (s.after before).made building) {task : TaskId}
    {context : Context} {retried : Bool}
    (hstage : (s.after (before ++ building :: between)).stage? task =
      some (.offering request context retried))
    (now : Instant) {response : Sip.Response} (hstatus : response.status = 200) :
    ∃ ack, ((s.after (before ++ building :: between)).act
      (.happened now (.replied task (.done response)))).2.filterMap Effect.acknowledged? =
        [(task, ack)] := by
  obtain ⟨_, next, _, hnext, hread, _⟩ := dialog_after_made hmade between
  have hcommit : (commit request response next).read = next.read :=
    Dialog.read_congr rfl rfl rfl rfl
  simp only [Service.act, step, hstage, takeReply, takeResponse, hstatus, takeAcceptance, hnext]
  have hok := Dialog.isOk_request .ack (commit request response next)
    (s.after (before ++ building :: between)).bound
    (s.after (before ++ building :: between)).supply
  rw [hcommit, hread] at hok
  unfold Dialog.ack
  split
  · rename_i heq
    rw [heq] at hok
    cases hok
  · rename_i ack _ _
    exact ⟨ack, rfl⟩

/-- **Which number an ACK has.** In every run, an ACK is handed over only when the re-INVITE of a
task is answered 200. If that re-INVITE was built on the session earlier in the run, the ACK has
its Call-ID, and its number plus one for every re-INVITE that was built since; so it has the number
of the re-INVITE that was answered exactly if no other one was built between its building and the
200. -/
theorem ack_number (s : Service) (acts : List Act) (act : Act) {task : TaskId} {ack : Sip.Request}
    (hack : (task, ack) ∈ ((s.after acts).act act).2.filterMap Effect.acknowledged?) :
    ∃ now response request context retried,
      act = .happened now (.replied task (.done response)) ∧ response.status = 200 ∧
      (s.after acts).stage? task = some (.offering request context retried) ∧
      ∀ before building between, acts = before ++ building :: between →
        request ∈ (s.after before).made building →
          ack.callId? = request.callId? ∧
          ∃ number, request.cSeq? = some number ∧
            ack.cSeq? =
              some (number + ((s.after (before ++ [building])).built between).length) ∧
            (ack.cSeq? = request.cSeq? ↔ (s.after (before ++ [building])).built between = []) := by
  obtain ⟨hanswered, last, hlast, hcarries⟩ := (s.after acts).act_acknowledges act hack
  obtain ⟨now, response, request, context, retried, hact, hstatus, hstage⟩ := hanswered
  refine ⟨now, response, request, context, retried, hact, hstatus, hstage, ?_⟩
  rintro before building between rfl hmade
  obtain ⟨dialog, next, hrequest, hnext, _, hadvances⟩ := dialog_after_made hmade between
  obtain rfl : next = last := Option.some.inj (hnext.symm.trans hlast)
  refine ⟨?_, dialog.cSeq, hrequest.cSeq, ?_, ?_⟩
  · rw [hcarries.callId, hrequest.callId, hadvances.callId]
  · rw [hcarries.cSeq, hadvances.cSeq]
  · rw [hcarries.cSeq, hrequest.cSeq, hadvances.cSeq, Option.some.injEq, Nat.add_eq_left,
      List.length_eq_zero_iff]

/-- A session with a dialog, for the examples. -/
def sample : Service where
  settings := {}
  bound := ⟨.v4 [10, 0, 0, 2], 5060⟩
  id := .given "1"
  kind := ⟨.oneToOneChat, "b"⟩
  dialog := some
    { callId := .given "c", target := "sip:b@a", localParty := "sip:c@a", remoteParty := "sip:b@a",
      localTag := .given "t" }

/-- The first re-INVITE that is built on it. -/
def sampleOffer : Sip.Request :=
  match (sample.createReinvite {}).2.2 with
  | .ok request => request
  | .error _ => default

/-- An example: the re-INVITE is built and sent. -/
def sampleSent : List Act := [.created {}, .happened 0 (.offered 0 sampleOffer .mediaUpdate)]

/-- In the example, if the re-INVITE is answered 200 then, the ACK has its number. -/
theorem own_number_in_sample :
    ∃ task ack, (task, ack) ∈ ((sample.after sampleSent).act
        (.happened 1 (.replied 0 (.done { status := 200 })))).2.filterMap Effect.acknowledged? ∧
      ack.callId? = sampleOffer.callId? ∧ ack.cSeq? = sampleOffer.cSeq? := by
  have hack : ∃ entry, entry ∈ ((sample.after sampleSent).act
      (.happened 1 (.replied 0 (.done { status := 200 })))).2.filterMap Effect.acknowledged? :=
    List.exists_mem_of_length_pos (by decide +kernel)
  obtain ⟨⟨task, ack⟩, hack⟩ := hack
  obtain ⟨now, response, request, context, retried, hact, _, hstage, hnumber⟩ :=
    ack_number sample sampleSent _ hack
  cases hact
  have hoffering : (sample.after sampleSent).stage? 0 =
      some (.offering sampleOffer .mediaUpdate false) := by decide +kernel
  cases hoffering.symm.trans hstage
  obtain ⟨hcallId, _, _, _, hown⟩ := hnumber [] (.created {}) _ rfl (by decide +kernel)
  exact ⟨0, ack, hack, hcallId, hown.mpr (by decide +kernel)⟩

/-- But if one more re-INVITE is built before the 200 comes, the ACK has the number of that one: the
re-INVITE with the number 2 is acknowledged with the number 3. -/
theorem later_number_in_sample :
    sampleOffer ∈ sample.made (.created {}) ∧ sampleOffer.cSeq? = some 2 ∧
      (sample.after (sampleSent ++ [.created {}])).stage? 0 =
        some (.offering sampleOffer .mediaUpdate false) ∧
      (((sample.after (sampleSent ++ [.created {}])).act
          (.happened 1 (.replied 0 (.done { status := 200 })))).2.filterMap
            Effect.acknowledged?).map (fun entry => entry.2.cSeq?) = [some 3] := by
  decide +kernel

end ImsClient.Session.Service
