import ImsClient.Proofs.Session.Acknowledgement
import ImsClient.Proofs.Session.Course
import Mathlib.Logic.Function.Iterate

/-!
# What moves a session on

Three things about a session only ever move on: its state, with the flags of its dialog;
the number of the dialog; and the count of the transport. To move the session on to a
state concerns the first of them, and to build a re-INVITE the other two, whether the
re-INVITE comes out or not. Whatever else is done leaves all three as they are.
-/

namespace ImsClient.Session

/-- The change of state that an effect tells the listener of. -/
def Effect.change? : Effect → Option (State × State)
  | tellState source target => some (source, target)
  | _ => none

/-- How far a session has come. -/
structure Progress where
  state : State
  /-- Whether its dialog is established, and whether it is cancelled. -/
  flags : Option (Bool × Bool)
  /-- The Call-ID of the dialog, and its number. -/
  number : Option (Identifier × Nat)
  peerCount : Option Nat

namespace Progress

/-- One more re-INVITE is built: it has the next number, and the count of the transport is that
number at least. -/
def advance (progress : Progress) : Progress :=
  match progress.number with
  | none => progress
  | some (callId, number) =>
    { progress with
      number := some (callId, number + 1)
      peerCount := progress.peerCount.map (max · (number + 1)) }

/-- The building of a re-INVITE is no change of state. -/
@[simp] theorem state_advance (progress : Progress) : progress.advance.state = progress.state := by
  unfold advance
  split <;> rfl

/-- It leaves the flags. -/
@[simp] theorem flags_advance (progress : Progress) : progress.advance.flags = progress.flags := by
  unfold advance
  split <;> rfl

/-- It moves the number on by one. -/
@[simp] theorem number_advance (progress : Progress) :
    progress.advance.number = progress.number.map fun (callId, number) => (callId, number + 1) := by
  unfold advance
  split <;> next hnumber => simp [hnumber]

/-- Re-INVITEs one after another leave the state and the flags, and take one number each. -/
theorem iterate_advance (count : Nat) (progress : Progress) :
    (advance^[count] progress).state = progress.state ∧
      (advance^[count] progress).flags = progress.flags ∧
      (advance^[count] progress).number =
        progress.number.map fun (callId, number) => (callId, number + count) := by
  induction count generalizing progress with
  | zero => simp
  | succ count ih =>
    obtain ⟨hstate, hflags, hnumber⟩ := ih progress.advance
    rw [Function.iterate_succ_apply]
    refine ⟨hstate.trans progress.state_advance, hflags.trans progress.flags_advance, ?_⟩
    rw [hnumber, number_advance, Option.map_map]
    refine congrArg (progress.number.map ·) (funext fun (callId, number) => ?_)
    simp only [Function.comp_apply, Nat.add_assoc, Nat.add_comm 1 count]

end Progress

namespace Service

/-- How far a session has come. -/
def progress (s : Service) : Progress where
  state := s.state
  flags := s.dialog.map fun dialog => (dialog.established, dialog.cancelled)
  number := s.dialog.map fun dialog => (dialog.callId, dialog.cSeq)
  peerCount := s.peerCount

/-- A result leaves a session as far as it was, and tells of no change of state. -/
structure Steady (s : Service) (result : Service × List Effect) : Prop where
  progress : result.1.progress = s.progress
  changes : result.2.filterMap Effect.change? = []

variable {s n : Service} {result : Service × List Effect}

/-- What is steady for a session is so for every one that is as far. -/
theorem Steady.of_progress (h : n.Steady result) (hsame : n.progress = s.progress) :
    s.Steady result :=
  ⟨h.progress.trans hsame, h.changes⟩

/-! ### What is steady -/

/-- To change what was agreed on in the dialog leaves the session as far as it was. -/
theorem progress_with_dialog {dialog : Dialog} (next : Dialog) (hdialog : s.dialog = some dialog)
    (hcallId : next.callId = dialog.callId) (hcSeq : next.cSeq = dialog.cSeq)
    (hestablished : next.established = dialog.established)
    (hcancelled : next.cancelled = dialog.cancelled) :
    { s with dialog := some next }.progress = s.progress := by
  simp only [progress, hdialog, Option.map_some, hcallId, hcSeq, hestablished, hcancelled]

/-- To end the acceptance of a re-INVITE is steady. -/
theorem concludeAcceptance_steady (s : Service) (task : TaskId) (answering : Option Context)
    (ended : Except Error Unit) : s.Steady (s.concludeAcceptance task answering ended) := by
  unfold concludeAcceptance
  split <;> exact ⟨rfl, rfl⟩

/-- To accept a re-INVITE is steady. -/
theorem sendAcceptance_steady (s : Service) (task : TaskId) (request : Sip.Request)
    (reply : Description) (answering : Option Context) :
    s.Steady (s.sendAcceptance task request reply answering) := by
  unfold sendAcceptance
  cases hdialog : s.dialog with
  | none => exact s.concludeAcceptance_steady task answering _
  | some dialog =>
    dsimp only
    split
    · have hcontents := s.progress_with_dialog { dialog with
        remoteContent := request.content?.or dialog.remoteContent
        localContent := some reply.content } hdialog rfl rfl rfl rfl
      split
      · exact (concludeAcceptance_steady _ task answering _).of_progress hcontents
      · exact ⟨hcontents, rfl⟩
    · exact s.concludeAcceptance_steady task answering _

/-- To refuse one is steady. -/
theorem refuse_steady (s : Service) (task : TaskId) (request : Sip.Request) (status : Nat)
    (outcome : Outcome) : s.Steady (s.refuse task request status outcome) := by
  unfold refuse
  split
  · exact ⟨rfl, rfl⟩
  · split <;> exact ⟨rfl, rfl⟩

/-- To look at the decision is steady. -/
theorem look_steady (s : Service) (now : Instant) (task : TaskId) :
    s.Steady (s.look now task) := by
  unfold look
  split
  · split
    · unfold carryOut
      split
      · exact s.sendAcceptance_steady ..
      · exact s.refuse_steady ..
      · exact s.refuse_steady ..
    · exact ⟨rfl, rfl⟩
  · split <;> exact ⟨rfl, rfl⟩
  · exact ⟨rfl, rfl⟩

/-- To take in a 200, and to acknowledge it, is steady. -/
theorem takeAcceptance_steady (s : Service) (task : TaskId) (request : Sip.Request)
    (context : Context) (response : Sip.Response) :
    s.Steady (s.takeAcceptance task request context response) := by
  unfold takeAcceptance
  cases hdialog : s.dialog with
  | none => exact ⟨rfl, rfl⟩
  | some dialog =>
    dsimp only
    have hcommitted := s.progress_with_dialog (commit request response dialog) hdialog
      rfl rfl rfl rfl
    split
    · exact ⟨hcommitted, rfl⟩
    · exact ⟨hcommitted, rfl⟩

/-- To go on after a response was handed over is steady. -/
theorem takeResponded_steady (s : Service) (task : TaskId) (responding : Responding)
    (ended : Except Error Unit) : s.Steady (s.takeResponded task responding ended) := by
  unfold takeResponded
  split
  · exact ⟨rfl, rfl⟩
  · exact s.concludeAcceptance_steady ..
  · exact ⟨rfl, rfl⟩
  · exact ⟨rfl, rfl⟩

/-- To go on after an ACK was awaited is steady. -/
theorem takeConfirmation_steady (s : Service) (task : TaskId) (answering : Option Context)
    (delivery : Delivery Unit) : s.Steady (s.takeConfirmation task answering delivery) := by
  unfold takeConfirmation
  split <;> exact s.concludeAcceptance_steady ..

/-- Credentials for the proxy leave a session as far as it was. -/
theorem progress_authorize (s : Service) (request : Sip.Request) :
    (s.authorize request).1.progress = s.progress := by
  unfold authorize
  split
  · rfl
  · dsimp only
    split <;> rfl

/-- **Everything but a reply is steady.** Whatever happens to a task, other than that its re-INVITE
is answered, leaves the session as far as it was. -/
theorem step_steady (s : Service) (now : Instant) {event : Event}
    (hevent : ∀ task delivery, event ≠ .replied task delivery) : s.Steady (s.step now event) := by
  cases event with
  | replied task delivery => exact absurd rfl (hevent task delivery)
  | offered task request context => exact ⟨rfl, rfl⟩
  | received task request reply context => exact (look_steady _ now task).of_progress rfl
  | accepted task request reply => exact s.sendAcceptance_steady ..
  | awaited task period => exact (look_steady _ now task).of_progress rfl
  | looked task => exact s.look_steady now task
  | acked task =>
    simp only [step]
    split <;> exact ⟨rfl, rfl⟩
  | responded task result =>
    simp only [step]
    split
    · exact s.takeResponded_steady ..
    · exact ⟨rfl, rfl⟩
  | confirmed task result =>
    simp only [step]
    split
    · exact s.takeConfirmation_steady ..
    · exact ⟨rfl, rfl⟩

/-! ### The building of re-INVITEs -/

/-- To move up the count of the transport moves on nothing else, and tells of no change of state. -/
theorem advancePeer_progress (s : Service) (callId : Identifier) (cSeq : Nat) :
    (s.advancePeer callId cSeq).1.progress =
        { s.progress with peerCount := s.peerCount.map (max · cSeq) } ∧
      (s.advancePeer callId cSeq).2.filterMap Effect.change? = [] := by
  unfold advancePeer
  cases hcount : s.peerCount with
  | none => exact ⟨by simp only [progress, hcount, Option.map_none], rfl⟩
  | some count =>
    dsimp only
    split
    · next hbehind =>
      refine ⟨?_, rfl⟩
      simp only [progress, Option.map_some, Nat.max_eq_right (Nat.le_of_lt hbehind)]
    · next hahead =>
      refine ⟨?_, rfl⟩
      simp only [progress, hcount, Option.map_some, Nat.max_eq_left (Nat.le_of_not_lt hahead)]

/-- **What the building of a re-INVITE moves on.** It takes the next number of the dialog, and moves
the count of the transport up to it, whether the re-INVITE comes out or not. -/
theorem createReinvite_progress (s : Service) (offer : Description) :
    (s.createReinvite offer).1.progress = s.progress.advance ∧
      (s.createReinvite offer).2.1.filterMap Effect.change? = [] := by
  cases hdialog : s.dialog with
  | none =>
    rw [createReinvite_of_no_dialog offer hdialog]
    exact ⟨by simp [Progress.advance, progress, hdialog], rfl⟩
  | some dialog =>
    unfold createReinvite
    simp only [hdialog]
    have hpeer := { s with dialog := some dialog.advance }.advancePeer_progress
      dialog.advance.callId dialog.advance.cSeq
    generalize { s with dialog := some dialog.advance }.advancePeer dialog.advance.callId
      dialog.advance.cSeq = peered at hpeer ⊢
    obtain ⟨next, effects⟩ := peered
    obtain ⟨hnext, hchanges⟩ := hpeer
    have hadvanced : next.progress = s.progress.advance := by
      rw [hnext]
      simp only [Progress.advance, progress, hdialog, Option.map_some, Dialog.advance]
    dsimp only
    split
    · exact ⟨hadvanced, hchanges⟩
    · exact ⟨(progress_authorize _ _).trans hadvanced, hchanges⟩

/-- The session that answers the challenge of the proxy, with the offer that it makes again. What
challenges is a 407 to the first re-INVITE of a task, if the agent of the session can read it. -/
def challenged? (s : Service) (task : TaskId) :
    Delivery Sip.Response → Option (Service × Description)
  | .done response =>
    match s.stage? task, s.proxy with
    | some (.offering request _ false), some agent =>
      match response.status, agent.readChallenge response "Proxy-Authenticate" with
      | 407, .ok agent =>
        some ({ s with proxy := some agent }, ⟨s.featureTags, request.content?.getD ""⟩)
      | _, _ => none
    | _, _ => none
  | _ => none

/-- What comes of the re-INVITE that an act builds, if it builds one: the user's, or the one that a
task makes again for the proxy. -/
def attempts (s : Service) : Act → List (Except Error Sip.Request)
  | .created offer => [(s.createReinvite offer).2.2]
  | .happened _ (.replied task delivery) =>
    (s.challenged? task delivery).toList.map fun (ready, offer) =>
      (ready.createReinvite offer).2.2
  | _ => []

/-- What a result moves on for the re-INVITEs that were attempted: one number each. It sends those
that came out, and tells of no change of state. -/
structure Tries (s : Service) (attempted : List (Except Error Sip.Request))
    (result : Service × List Effect) : Prop where
  progress : result.1.progress = Progress.advance^[attempted.length] s.progress
  changes : result.2.filterMap Effect.change? = []
  sent : result.2.filterMap Effect.sent? = attempted.filterMap Except.toOption

/-- What is steady and sends nothing tries nothing. -/
theorem Steady.tries (h : s.Steady result) (hsent : result.2.filterMap Effect.sent? = []) :
    s.Tries [] result := ⟨h.progress, h.changes, hsent⟩

/-- Only a 407 challenges. -/
theorem challenged?_of_status (s : Service) (task : TaskId) {response : Sip.Response}
    (hstatus : response.status ≠ 407) : s.challenged? task (.done response) = none := by
  unfold challenged?
  dsimp only
  split
  · split
    · next hsame _ => exact absurd hsame hstatus
    · rfl
  · rfl

/-- Only a task that offers is challenged. -/
theorem challenged?_of_stage {task : TaskId} (delivery : Delivery Sip.Response)
    (hstage : ∀ request context retried, s.stage? task ≠ some (.offering request context retried)) :
    s.challenged? task delivery = none := by
  unfold challenged?
  split
  · split
    · next hoffering _ => exact absurd hoffering (hstage _ _ _)
    · rfl
  · rfl

/-- To answer a challenge that can be read tries one re-INVITE, the offer that is made again; one
that cannot be read is not answered. -/
theorem answerProxy_tries {task : TaskId} {request : Sip.Request} {context : Context}
    {response : Sip.Response}
    (hstage : s.stage? task = some (.offering request context false))
    (hstatus : response.status = 407) (now : Instant) :
    s.Tries (s.attempts (.happened now (.replied task (.done response))))
      (s.answerProxy task request context response) := by
  have hfailed (error : Error) : s.Tries [] (s.concludeFailed task context error) :=
    ⟨rfl, rfl, rfl⟩
  cases hproxy : s.proxy with
  | none => simpa [attempts, challenged?, answerProxy, hstage, hproxy] using hfailed _
  | some agent =>
    cases hchallenge : agent.readChallenge response "Proxy-Authenticate" with
    | error e =>
      simpa [attempts, challenged?, answerProxy, hstage, hproxy, hstatus, hchallenge]
        using hfailed _
    | ok ready =>
      simp only [attempts, challenged?, answerProxy, hstage, hproxy, hstatus, hchallenge,
        Option.toList_some, List.map_cons, List.map_nil]
      generalize (⟨s.featureTags, request.content?.getD ""⟩ : Description) = again
      obtain ⟨hprogress, hchanges⟩ := { s with proxy := some ready }.createReinvite_progress again
      have hsent := ({ s with proxy := some ready }.createReinvite_silent again).1
      generalize { s with proxy := some ready }.createReinvite again = created
        at hprogress hchanges hsent ⊢
      obtain ⟨next, effects, made⟩ := created
      dsimp only at hprogress hchanges hsent
      cases made with
      | error e =>
        refine ⟨hprogress, ?_, ?_⟩
        · dsimp only
          rw [List.filterMap_append, hchanges]
          rfl
        · dsimp only
          rw [List.filterMap_append, hsent]
          rfl
      | ok made =>
        refine ⟨hprogress, ?_, ?_⟩
        · dsimp only
          rw [List.filterMap_append, hchanges]
          rfl
        · dsimp only
          rw [List.filterMap_append, hsent]
          rfl

/-- What comes of a re-INVITE tries one more if it challenges, and is steady otherwise. -/
theorem takeReply_tries {task : TaskId} {request : Sip.Request} {context : Context}
    {retried : Bool} (hstage : s.stage? task = some (.offering request context retried))
    (now : Instant) (delivery : Delivery Sip.Response) :
    s.Tries (s.attempts (.happened now (.replied task delivery)))
      (s.takeReply task request context retried delivery) := by
  have hnone {result : Service × List Effect} (hunchallenged : s.challenged? task delivery = none)
      (hresult : s.Tries [] result) :
      s.Tries (s.attempts (.happened now (.replied task delivery))) result := by
    simpa [attempts, hunchallenged] using hresult
  cases delivery with
  | failure e => exact hnone rfl ⟨rfl, rfl, rfl⟩
  | none => exact hnone rfl ⟨rfl, rfl, rfl⟩
  | done response =>
    simp only [takeReply]
    unfold takeResponse
    split
    · next hstatus =>
      have hquiet := s.takeAcceptance_steady task request context response
      refine hnone (s.challenged?_of_status task (by omega)) (hquiet.tries ?_)
      unfold takeAcceptance
      split
      · rfl
      · dsimp only
        split <;> rfl
    · next hstatus => exact hnone (s.challenged?_of_status task (by omega)) ⟨rfl, rfl, rfl⟩
    · next hstatus => exact hnone (s.challenged?_of_status task (by omega)) ⟨rfl, rfl, rfl⟩
    · next hstatus =>
      cases retried with
      | false => exact s.answerProxy_tries hstage hstatus now
      | true => exact hnone (by simp [challenged?, hstage]) ⟨rfl, rfl, rfl⟩
    · next hother => exact hnone (s.challenged?_of_status task hother) ⟨rfl, rfl, rfl⟩

/-! ### Acts -/

/-- The session once it has gone on to a state. -/
def enter (s : Service) (target : State) : Service :=
  { s.updateDialog (mark target) with state := target }

/-- A state that is entered is the present one, and sets the flags of the dialog that go with it. -/
theorem progress_enter (s : Service) (target : State) :
    (s.enter target).progress =
      { s.progress with
        state := target
        flags := s.progress.flags.map fun (established, cancelled) =>
          (established || target = .started,
            cancelled || target = .aborted || target = .terminated) } := by
  cases hdialog : s.dialog with
  | none => simp [progress, enter, updateDialog, hdialog]
  | some dialog => cases target <;> simp [progress, enter, updateDialog, mark, hdialog]

/-- What it is to set a state: it is the present one, or one that may follow, or else the call fails
and says which two states do not go together. -/
theorem setState_cases (s : Service) (target : State) :
    (s.state = target ∧ s.setState target = .ok (s, [])) ∨
    (s.state.canBecome target = true ∧
      s.setState target = .ok (s.enter target, [.tellState s.state target])) ∨
    (s.state ≠ target ∧ s.state.canBecome target = false ∧
      s.setState target = .error (.invalidTransition s.state.text target.text)) := by
  by_cases hsame : s.state = target
  · exact .inl ⟨hsame, if_pos hsame⟩
  · cases hfollows : s.state.canBecome target with
    | true =>
      refine .inr (.inl ⟨rfl, ?_⟩)
      simp only [setState, if_neg hsame, State.check, hfollows, if_true]
      rfl
    | false =>
      refine .inr (.inr ⟨hsame, rfl, ?_⟩)
      simp only [setState, if_neg hsame, State.check, hfollows, Bool.false_eq_true, if_false]
      rfl

/-- A session that is moved on to a state enters it, if it may follow, and nothing happens
otherwise. -/
theorem moved_cases (s : Service) (target : State) :
    s.act (.moved target) = (s, []) ∨
      s.state.canBecome target = true ∧
        s.act (.moved target) = (s.enter target, [.tellState s.state target]) := by
  simp only [Service.act]
  rcases s.setState_cases target with ⟨_, heq⟩ | ⟨hfollows, heq⟩ | ⟨_, _, heq⟩
  · exact .inl (by rw [heq])
  · exact .inr ⟨hfollows, by rw [heq]⟩
  · exact .inl (by rw [heq])

/-- **What an act moves on.** Unless it moves the session on to a state, an act moves it on by one
number for the re-INVITE that it attempts, if it attempts one, and is no change of state. -/
theorem act_progress (s : Service) {act : Act} (hact : ∀ target, act ≠ .moved target) :
    (s.act act).1.progress = Progress.advance^[(s.attempts act).length] s.progress ∧
      (s.act act).2.filterMap Effect.change? = [] := by
  cases act with
  | moved target => exact absurd rfl (hact target)
  | created offer => exact s.createReinvite_progress offer
  | prepared | accepted | rejected => exact ⟨rfl, rfl⟩
  | happened now event =>
    by_cases hreply : ∃ task delivery, event = .replied task delivery
    · obtain ⟨task, delivery, rfl⟩ := hreply
      simp only [Service.act, step]
      split
      · next hstage =>
        have htries := s.takeReply_tries hstage now delivery
        exact ⟨htries.progress, htries.changes⟩
      · next hstage =>
        have hnone := s.challenged?_of_stage delivery hstage
        simp [attempts, hnone]
    · have hother : ∀ task delivery, event ≠ .replied task delivery :=
        fun task delivery h => hreply ⟨task, delivery, h⟩
      have hattempts : s.attempts (.happened now event) = [] := by
        cases event with
        | replied task delivery => exact absurd rfl (hother task delivery)
        | _ => rfl
      rw [hattempts]
      have hsteady := s.step_steady now hother
      exact ⟨hsteady.progress, hsteady.changes⟩

/-- **What numbers an act takes.** Any act moves the number on by one for each re-INVITE that it
attempts, and the count of the transport with it; without an attempt both stay. -/
theorem act_number (s : Service) (act : Act) :
    ∃ progress : Progress, progress.number = s.progress.number ∧
      progress.peerCount = s.peerCount ∧
      (s.act act).1.progress = Progress.advance^[(s.attempts act).length] progress := by
  by_cases hmoved : ∃ target, act = .moved target
  · obtain ⟨target, rfl⟩ := hmoved
    rcases s.moved_cases target with heq | ⟨_, heq⟩
    · exact ⟨s.progress, rfl, rfl, by rw [heq]; rfl⟩
    · refine ⟨(s.enter target).progress, ?_, rfl, by rw [heq]; rfl⟩
      rw [progress_enter]
  · exact ⟨s.progress, rfl, rfl, (s.act_progress fun target heq => hmoved ⟨target, heq⟩).1⟩

/-- The session that answers a challenge has the dialog there is. -/
theorem dialog_of_challenged {task : TaskId} {delivery : Delivery Sip.Response} {ready : Service}
    {offer : Description} (h : s.challenged? task delivery = some (ready, offer)) :
    ready.dialog = s.dialog := by
  unfold challenged? at h
  split at h
  · split at h
    · split at h
      · cases h
        rfl
      · cases h
    · cases h
  · cases h

/-- An act attempts one re-INVITE at most, and if it comes out it is a request of the dialog at its
next number. -/
theorem attempts_spec (s : Service) (act : Act) :
    (s.attempts act).length ≤ 1 ∧
      ∀ dialog, s.dialog = some dialog → ∀ request, .ok request ∈ s.attempts act →
        dialog.advance.Carries request := by
  have hone {ready : Service} (offer : Description) (hready : ready.dialog = s.dialog) :
      ∀ dialog, s.dialog = some dialog →
        ∀ request, .ok request ∈ [(ready.createReinvite offer).2.2] →
          dialog.advance.Carries request := by
    intro dialog hdialog request hrequest
    have hspec := createReinvite_spec offer (hready.trans hdialog)
    exact hspec.2.2.2.2 request (List.mem_singleton.mp hrequest).symm
  cases act with
  | prepared | accepted | rejected | moved =>
    exact ⟨Nat.zero_le 1, fun _ _ _ hrequest => by cases hrequest⟩
  | created offer => exact ⟨Nat.le_refl 1, hone offer rfl⟩
  | happened now event =>
    cases event with
    | replied task delivery =>
      simp only [attempts]
      cases hchallenged : s.challenged? task delivery with
      | none => exact ⟨Nat.zero_le 1, fun _ _ _ hrequest => by cases hrequest⟩
      | some found =>
        obtain ⟨ready, offer⟩ := found
        exact ⟨Nat.le_refl 1, hone offer (dialog_of_challenged hchallenged)⟩
    | _ => exact ⟨Nat.zero_le 1, fun _ _ _ hrequest => by cases hrequest⟩

/-- The re-INVITEs that an act builds are those of its attempts that come out. -/
theorem made_eq (s : Service) (act : Act) :
    s.made act = (s.attempts act).filterMap Except.toOption := by
  cases act with
  | prepared | accepted | rejected | moved => rfl
  | created offer =>
    simp only [made, attempts]
    cases (s.createReinvite offer).2.2 <;> rfl
  | happened now event =>
    cases event with
    | replied task delivery =>
      simp only [made, step]
      split
      · next hstage => exact (s.takeReply_tries hstage now delivery).sent
      · next hstage =>
        have hnone := s.challenged?_of_stage delivery hstage
        simp [attempts, hnone]
    | _ => rfl

end Service

end ImsClient.Session
