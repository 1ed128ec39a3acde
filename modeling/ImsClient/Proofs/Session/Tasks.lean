import ImsClient.Proofs.Session.Run

/-!
# One task at a time

Whatever happens to a session concerns one of its tasks at most: all other tasks stay
where they are, the decision stays what it is, and if a wait for the decision is over
it is that of the task, with the decision that there is. Only the user clears or takes
the decision.
-/

namespace ImsClient.Session

/-- The task for which an effect ends a wait for the decision, with the answer that it gives. -/
def Effect.returned? : Effect → Option (TaskId × Answer)
  | finish task (.decision answer) => some (task, answer)
  | _ => none

namespace Event

/-- The task that an event happens to. -/
def task : Event → TaskId
  | offered task .. | received task .. | accepted task .. | awaited task _ | looked task
  | replied task _ | acked task | responded task _ | confirmed task _ => task

/-- Whether a task begins with an event. -/
def begins : Event → Bool
  | offered .. | received .. | accepted .. | awaited .. => true
  | _ => false

end Event

namespace Service

/-! ### Stages -/

/-- A list without the entries of a key has none of that key, and the same of other keys. -/
theorem lookup_filter_ne (tasks : List (TaskId × Stage)) (task other : TaskId) :
    (tasks.filter (·.1 ≠ task)).lookup other =
      if other = task then none else tasks.lookup other := by
  induction tasks with
  | nil => simp
  | cons entry tasks ih =>
    obtain ⟨key, stage⟩ := entry
    by_cases hkey : key = task
    · subst hkey
      rw [List.filter_cons_of_neg (by simp), ih]
      by_cases hother : other = key
      · simp [hother]
      · rw [if_neg hother, if_neg hother, List.lookup_cons, beq_false_of_ne hother]
    · rw [List.filter_cons_of_pos (by simpa using hkey), List.lookup_cons, ih, List.lookup_cons]
      by_cases hother : other = key
      · subst hother
        simp [hkey]
      · rw [beq_false_of_ne hother]

/-- A task that is set to a stage is at it, and the others stay where they are. -/
@[simp] theorem stage?_withTask (s : Service) (task other : TaskId) (stage : Stage) :
    (s.withTask task stage).stage? other = if other = task then some stage else s.stage? other := by
  unfold stage? withTask
  rw [List.lookup_cons, lookup_filter_ne]
  by_cases hother : other = task
  · simp [hother]
  · simp [hother, beq_false_of_ne hother]

/-- A task that is taken out is at no stage, and the others stay where they are. -/
@[simp] theorem stage?_withoutTask (s : Service) (task other : TaskId) :
    (s.withoutTask task).stage? other = if other = task then none else s.stage? other := by
  unfold stage? withoutTask
  exact lookup_filter_ne s.tasks task other

/-! ### What concerns one task -/

/-- A result concerns one task at most; and whatever is awaited because of it is awaited for the
transaction time. -/
structure Concerns (s : Service) (task : Option TaskId) (result : Service × List Effect) :
    Prop where
  settings : result.1.settings = s.settings
  answer : result.1.answer = s.answer
  others : ∀ other, some other ≠ task → result.1.stage? other = s.stage? other
  returned : ∀ entry ∈ result.2.filterMap Effect.returned?,
    some entry.1 = task ∧ entry.2 = s.answer
  patient : ∀ patience ∈ result.2.filterMap Effect.patience?,
    patience = s.settings.transactionTime

variable {s n : Service} {task : Option TaskId} {result : Service × List Effect}

/-- What leaves the decision and the tasks alone concerns no task. -/
theorem concerns_of_same {effects : List Effect} (hsettings : n.settings = s.settings)
    (hanswer : n.answer = s.answer) (htasks : n.tasks = s.tasks)
    (hsilent : effects.filterMap Effect.returned? = [])
    (hpatient : effects.filterMap Effect.patience? = []) : s.Concerns task (n, effects) where
  settings := hsettings
  answer := hanswer
  others other _ := by simp only [stage?, htasks]
  returned entry hentry := by simp [hsilent] at hentry
  patient patience hpatience := by simp [hpatient] at hpatience

/-- What concerns a task does so whatever else there is. -/
theorem Concerns.of_same (h : n.Concerns task result) (hsettings : n.settings = s.settings)
    (hanswer : n.answer = s.answer) (htasks : n.tasks = s.tasks) : s.Concerns task result where
  settings := h.settings.trans hsettings
  patient patience hpatience := hsettings ▸ h.patient patience hpatience
  answer := h.answer.trans hanswer
  others other hother := by
    rw [h.others other hother, stage?, stage?, htasks]
  returned entry hentry := by
    rw [← hanswer]
    exact h.returned entry hentry

/-- Results one after another that concern a task concern it together. -/
theorem Concerns.append {effects : List Effect} (hfirst : s.Concerns task (n, effects))
    (hrest : n.Concerns task result) : s.Concerns task (result.1, effects ++ result.2) where
  settings := hrest.settings.trans hfirst.settings
  patient patience hpatience := by
    rw [List.filterMap_append, List.mem_append] at hpatience
    rcases hpatience with hpatience | hpatience
    · exact hfirst.patient patience hpatience
    · rw [← hfirst.settings]
      exact hrest.patient patience hpatience
  answer := hrest.answer.trans hfirst.answer
  others other hother := (hrest.others other hother).trans (hfirst.others other hother)
  returned entry hentry := by
    rw [List.filterMap_append, List.mem_append] at hentry
    rcases hentry with hentry | hentry
    · exact hfirst.returned entry hentry
    · rw [← hfirst.answer]
      exact hrest.returned entry hentry

/-- To set a task to a stage concerns it. -/
theorem withTask_concerns (s : Service) (task : TaskId) (stage : Stage) {effects : List Effect}
    (hsilent : effects.filterMap Effect.returned? = [])
    (hpatient : ∀ patience ∈ effects.filterMap Effect.patience?,
      patience = s.settings.transactionTime) :
    s.Concerns (some task) (s.withTask task stage, effects) where
  settings := rfl
  patient := hpatient
  answer := rfl
  others other hother := by
    rw [stage?_withTask, if_neg (fun h => hother (congrArg some h))]
  returned entry hentry := by simp [hsilent] at hentry

/-- To take a task out concerns it, whatever answer it gives of the decision that there is. -/
theorem withoutTask_concerns (s : Service) (task : TaskId) {effects : List Effect}
    (hreturned : ∀ entry ∈ effects.filterMap Effect.returned?, entry = (task, s.answer))
    (hpatient : effects.filterMap Effect.patience? = []) :
    s.Concerns (some task) (s.withoutTask task, effects) where
  settings := rfl
  patient patience hpatience := by simp [hpatient] at hpatience
  answer := rfl
  others other hother := by
    rw [stage?_withoutTask, if_neg (fun h => hother (congrArg some h))]
  returned entry hentry := by
    rw [hreturned entry hentry]
    exact ⟨rfl, rfl⟩

/-- To end a renegotiation concerns its task. -/
theorem conclude_concerns (s : Service) (task : TaskId) (outcome : Outcome) :
    s.Concerns (some task) (s.conclude task outcome) :=
  s.withoutTask_concerns task (by simp [Effect.returned?]) rfl

/-- To end one by a failure concerns its task. -/
theorem concludeFailed_concerns (s : Service) (task : TaskId) (context : Context) (error : Error) :
    s.Concerns (some task) (s.concludeFailed task context error) :=
  s.withoutTask_concerns task (by simp [Effect.returned?]) rfl

/-- To end the acceptance of a re-INVITE concerns its task. -/
theorem concludeAcceptance_concerns (s : Service) (task : TaskId) (answering : Option Context)
    (ended : Except Error Unit) :
    s.Concerns (some task) (s.concludeAcceptance task answering ended) := by
  unfold concludeAcceptance
  split
  · exact s.withoutTask_concerns task (by simp [Effect.returned?]) rfl
  · exact s.conclude_concerns task _
  · exact s.concludeFailed_concerns task _ _

/-- To accept a re-INVITE concerns its task. -/
theorem sendAcceptance_concerns (s : Service) (task : TaskId) (request : Sip.Request)
    (reply : Description) (answering : Option Context) :
    s.Concerns (some task) (s.sendAcceptance task request reply answering) := by
  unfold sendAcceptance
  split
  · exact s.concludeAcceptance_concerns task answering _
  · dsimp only
    split
    · split
      · exact (concludeAcceptance_concerns _ task answering _).of_same rfl rfl rfl
      · exact (withTask_concerns _ task _ rfl (by simp [Effect.patience?])).of_same rfl rfl rfl
    · exact s.concludeAcceptance_concerns task answering _

/-- To refuse one concerns its task. -/
theorem refuse_concerns (s : Service) (task : TaskId) (request : Sip.Request) (status : Nat)
    (outcome : Outcome) : s.Concerns (some task) (s.refuse task request status outcome) := by
  unfold refuse
  split
  · exact s.conclude_concerns task _
  · split
    · exact s.conclude_concerns task _
    · exact s.withTask_concerns task _ rfl (by simp [Effect.patience?])

/-- A task that looks at the decision is the only one that is concerned. -/
theorem look_concerns (s : Service) (now : Instant) (task : TaskId) :
    s.Concerns (some task) (s.look now task) := by
  unfold look
  split
  · split
    · unfold carryOut
      split
      · exact s.sendAcceptance_concerns ..
      · exact s.refuse_concerns ..
      · exact s.refuse_concerns ..
    · exact concerns_of_same rfl rfl rfl rfl rfl
  · split
    · exact s.withoutTask_concerns task (by simp [Effect.returned?]) rfl
    · exact concerns_of_same rfl rfl rfl rfl rfl
  · exact concerns_of_same rfl rfl rfl rfl rfl

/-- To move the count of the transport up concerns no task. -/
theorem advancePeer_concerns (s : Service) (task : Option TaskId) (callId : Identifier)
    (cSeq : Nat) :
    s.Concerns task (s.advancePeer callId cSeq) := by
  unfold advancePeer
  split
  · split <;> exact concerns_of_same rfl rfl rfl rfl rfl
  · exact concerns_of_same rfl rfl rfl rfl rfl

/-- Credentials for the proxy concern no task. -/
theorem authorize_concerns (s : Service) (task : Option TaskId) (request : Sip.Request) :
    s.Concerns task ((s.authorize request).1, []) := by
  unfold authorize
  split
  · exact concerns_of_same rfl rfl rfl rfl rfl
  · dsimp only
    split <;> exact concerns_of_same rfl rfl rfl rfl rfl

/-- To build a re-INVITE concerns no task. -/
theorem createReinvite_concerns (s : Service) (task : Option TaskId) (offer : Description) :
    s.Concerns task ((s.createReinvite offer).1, (s.createReinvite offer).2.1) := by
  unfold createReinvite
  cases s.dialog with
  | none => exact concerns_of_same rfl rfl rfl rfl rfl
  | some dialog =>
    dsimp only
    have hadvance := advancePeer_concerns { s with dialog := some dialog.advance } task
      dialog.advance.callId dialog.advance.cSeq
    split
    · exact hadvance.of_same rfl rfl rfl
    · next request supply _ =>
      have hauthorize := authorize_concerns
        { (advancePeer { s with dialog := some dialog.advance } dialog.advance.callId
            dialog.advance.cSeq).1 with supply } task request
      have hboth := hadvance.append (hauthorize.of_same rfl rfl rfl)
      rw [List.append_nil] at hboth
      exact hboth.of_same rfl rfl rfl

/-- To answer the challenge of the proxy concerns the task. -/
theorem answerProxy_concerns (s : Service) (task : TaskId) (request : Sip.Request)
    (context : Context) (response : Sip.Response) :
    s.Concerns (some task) (s.answerProxy task request context response) := by
  unfold answerProxy
  split
  · exact s.concludeFailed_concerns task _ _
  · split
    · exact s.concludeFailed_concerns task _ _
    · rename_i agent _
      dsimp only
      generalize (⟨s.featureTags, request.content?.getD ""⟩ : Description) = again
      have hcreate := createReinvite_concerns { s with proxy := some agent } (some task) again
      generalize { s with proxy := some agent }.createReinvite again = created at hcreate ⊢
      obtain ⟨next, effects, made⟩ := created
      have hcreated : s.Concerns (some task) (next, effects) := hcreate.of_same rfl rfl rfl
      cases made with
      | error e => exact hcreated.append (next.concludeFailed_concerns task context e)
      | ok made =>
        exact hcreated.append (next.withTask_concerns task _ rfl (by simp [Effect.patience?]))

/-- To take in a response to a re-INVITE concerns the task. -/
theorem takeReply_concerns (s : Service) (task : TaskId) (request : Sip.Request)
    (context : Context) (retried : Bool) (reply : Delivery Sip.Response) :
    s.Concerns (some task) (s.takeReply task request context retried reply) := by
  unfold takeReply
  split
  · next response =>
    unfold takeResponse
    split
    · unfold takeAcceptance
      dsimp only
      split
      · exact s.conclude_concerns task _
      · split
        · exact (conclude_concerns _ task _).of_same rfl rfl rfl
        · exact (withTask_concerns _ task _ rfl (by simp [Effect.patience?])).of_same rfl rfl rfl
    · exact s.conclude_concerns task _
    · exact s.conclude_concerns task _
    · split
      · exact s.concludeFailed_concerns task _ _
      · exact s.answerProxy_concerns task _ _ _
    · exact s.concludeFailed_concerns task _ _
  · exact s.concludeFailed_concerns task _ _
  · exact s.concludeFailed_concerns task _ _

/-- To go on after a response was handed over concerns the task. -/
theorem takeResponded_concerns (s : Service) (task : TaskId) (responding : Responding)
    (ended : Except Error Unit) :
    s.Concerns (some task) (s.takeResponded task responding ended) := by
  unfold takeResponded
  split
  · exact s.withTask_concerns task _ rfl (by simp [Effect.patience?])
  · exact s.concludeAcceptance_concerns ..
  · exact s.conclude_concerns ..
  · exact s.conclude_concerns ..

/-- To go on after an ACK was awaited concerns the task. -/
theorem takeConfirmation_concerns (s : Service) (task : TaskId) (answering : Option Context)
    (delivery : Delivery Unit) :
    s.Concerns (some task) (s.takeConfirmation task answering delivery) := by
  unfold takeConfirmation
  split <;> exact s.concludeAcceptance_concerns ..

/-- **One task at a time.** An event concerns the task that it happens to, and no other one. -/
theorem step_concerns (s : Service) (now : Instant) (event : Event) :
    s.Concerns (some event.task) (s.step now event) := by
  have hbegin (task : TaskId) (stage : Stage) :
      s.Concerns (some task) ((s.withTask task stage).look now task) := by
    have hset : s.Concerns (some task) (s.withTask task stage, []) :=
      s.withTask_concerns task stage rfl nofun
    exact hset.append (look_concerns _ now task)
  cases event with
  | offered task request context =>
    exact s.withTask_concerns task _ rfl (by simp [Effect.patience?])
  | received task request reply context => exact hbegin task _
  | accepted task request reply => exact s.sendAcceptance_concerns ..
  | awaited task period => exact hbegin task _
  | looked task => exact s.look_concerns now task
  | replied task reply =>
    unfold step
    dsimp only
    split
    · exact s.takeReply_concerns ..
    · exact concerns_of_same rfl rfl rfl rfl rfl
  | acked task =>
    unfold step
    dsimp only
    split
    · exact s.conclude_concerns ..
    · exact concerns_of_same rfl rfl rfl rfl rfl
  | responded task ended =>
    unfold step
    dsimp only
    split
    · exact s.takeResponded_concerns ..
    · exact concerns_of_same rfl rfl rfl rfl rfl
  | confirmed task ended =>
    unfold step
    dsimp only
    split
    · exact s.takeConfirmation_concerns ..
    · exact concerns_of_same rfl rfl rfl rfl rfl

/-- To move the session on to a state concerns no task. -/
theorem moved_concerns (s : Service) (task : Option TaskId) (target : State) :
    s.Concerns task (s.act (.moved target)) := by
  unfold act setState
  by_cases hsame : s.state = target
  · simp only [hsame, if_true]
    exact concerns_of_same rfl rfl rfl rfl rfl
  · simp only [hsame, if_false]
    cases s.state.check target with
    | error e => exact concerns_of_same rfl rfl rfl rfl rfl
    | ok u => exact concerns_of_same rfl rfl rfl rfl rfl

/-- Whatever is done to a session, its settings stay, and what is awaited because of it is awaited
for the transaction time. -/
theorem act_patient (s : Service) (act : Act) :
    (s.act act).1.settings = s.settings ∧
      ∀ patience ∈ (s.act act).2.filterMap Effect.patience?,
        patience = s.settings.transactionTime := by
  cases act with
  | prepared | accepted | rejected => exact ⟨rfl, nofun⟩
  | created offer =>
    have hconcerns := s.createReinvite_concerns none offer
    exact ⟨hconcerns.settings, hconcerns.patient⟩
  | moved target =>
    have hconcerns := s.moved_concerns none target
    exact ⟨hconcerns.settings, hconcerns.patient⟩
  | happened now event =>
    have hconcerns := s.step_concerns now event
    exact ⟨hconcerns.settings, hconcerns.patient⟩

/-! ### A task that waits for the decision -/

/-- A task that is at a stage is one of the tasks. -/
theorem mem_tasks_of_stage? {task : TaskId} {stage : Stage} (hstage : s.stage? task = some stage) :
    (task, stage) ∈ s.tasks := by
  obtain ⟨before, rest, htasks, _⟩ := List.lookup_eq_some_iff.mp hstage
  simp [htasks]

/-- Nothing happens to a task that is not in progress, unless it begins. -/
theorem step_of_no_stage (now : Instant) {event : Event} (hbegins : event.begins = false)
    (hstage : s.stage? event.task = none) : s.step now event = (s, []) := by
  cases event with
  | offered | received | accepted | awaited => cases hbegins
  | looked | replied | acked | responded | confirmed =>
    simp only [Event.task] at hstage
    simp only [step, look, hstage]

/-- A task that waits for the decision is answered when it looks, if there is a decision or its time
is over; nothing else happens to it, unless it begins again. -/
theorem step_of_watching (now : Instant) {deadline : Instant} {event : Event}
    (hbegins : event.begins = false)
    (hstage : s.stage? event.task = some (.watching deadline)) :
    s.step now event = (s, []) ∨
      s.isDecided now deadline = true ∧
        s.step now event = s.finish event.task (.decision s.answer) := by
  cases event with
  | offered | received | accepted | awaited => cases hbegins
  | replied | acked | responded | confirmed =>
    simp only [Event.task] at hstage
    exact .inl (by simp only [step, hstage])
  | looked task =>
    simp only [Event.task] at hstage
    simp only [step, look, hstage]
    by_cases hdecided : s.isDecided now deadline = true
    · exact .inr ⟨hdecided, if_pos hdecided⟩
    · exact .inl (if_neg hdecided)

end Service

end ImsClient.Session
