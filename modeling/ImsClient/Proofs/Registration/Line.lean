import ImsClient.Proofs.Registration.Exchange

/-!
# The line for the lock

Calls have their turns in the order in which they got in line: over any run, those
who had a turn and those who still wait are, in this order, those who waited at the
start and those who got in line since. And no call is lost on the way: a call that
began is in progress until it ends, and it ends once.
-/

namespace ImsClient.Registration

namespace Manager

/-- Who gets in line along a run, in order. -/
def joined (m : Manager) (history : History) : List Waiter := m.along joins history

/-- The turns with the lock along a run, in order. -/
def served (m : Manager) (history : History) : List Turn := m.along turns history

/-- The calls that begin along a run, in order. -/
def begun (m : Manager) (history : History) : List Origin := m.along begins history

/-- The calls in progress: the one that holds the lock, those in line, and those whose notice the
listener has not returned from. -/
def inProgress (m : Manager) : List CallId :=
  (m.exchange.map Exchange.call).toList ++
    (m.waiting.map Waiter.call ++ m.callbacks.map Callback.call)

/-- An exchange that starts leaves the line behind it as it is. Its call holds the lock, or else
it was told that the attempt failed. -/
theorem startExchange_line (m : Manager) (call : CallId) (purpose : Purpose)
    (hfree : m.exchange = none) :
    (m.startExchange call purpose).1.waiting = m.waiting ∧
      (m.startExchange call purpose).2.filterMap Effect.finished? = [] ∧
      (m.startExchange call purpose).1.inProgress.Perm (call :: m.inProgress) := by
  have hprepared := m.prepare_prepared purpose
  rw [startExchange_eq]
  rcases (m.prepare purpose).send_cases call purpose with
    ⟨n, request, hlearns, _, heq⟩ | ⟨n, error, hlearns, _, heq⟩
  · rw [heq]
    refine ⟨hlearns.waiting.trans hprepared.waiting, rfl, ?_⟩
    simp [inProgress, hlearns.waiting, hprepared.waiting, hlearns.callbacks, hprepared.callbacks,
      hfree]
  · rw [heq]
    refine ⟨hlearns.waiting.trans hprepared.waiting, rfl, ?_⟩
    simp [fail_eq, inProgress, hlearns.waiting, hprepared.waiting, hlearns.callbacks,
      hprepared.callbacks, hfree, List.perm_iff_count, List.count_cons]
    omega

/-- Work with the lock leaves the line behind it as it is, and its call stays in progress. -/
theorem perform_line (m : Manager) (call : CallId) (work : Work) (hfree : m.exchange = none) :
    (m.perform call work).1.waiting = m.waiting ∧
      (m.perform call work).2.filterMap Effect.finished? = [] ∧
      (m.perform call work).1.inProgress.Perm (call :: m.inProgress) := by
  cases work with
  | exchange purpose => exact m.startExchange_line call purpose hfree
  | stop thenRegister =>
    refine ⟨rfl, rfl, ?_⟩
    simp [perform, release, tell, inProgress, hfree, List.perm_iff_count, List.count_cons]
    omega

/-- A reply leaves the line as it is, and the call that it is for stays in progress. -/
theorem receive_line (m : Manager) (now : Instant) (reply : Reply) :
    (m.receive now reply).1.waiting = m.waiting ∧
      (m.receive now reply).2.filterMap Effect.finished? = [] ∧
      (m.receive now reply).1.inProgress.Perm m.inProgress := by
  cases hexchange : m.exchange with
  | none =>
    rw [receive_of_no_exchange now reply hexchange]
    exact ⟨rfl, rfl, .refl _⟩
  | some exchange =>
    rcases m.receive_cases now reply hexchange with
      ⟨n, request, hlearns, heq⟩ | ⟨n, error, hlearns, heq⟩ | ⟨response, _, _, heq⟩
    · rw [heq]
      refine ⟨hlearns.waiting, rfl, ?_⟩
      simp [inProgress, hlearns.exchange, hlearns.waiting, hlearns.callbacks]
    · rw [heq]
      refine ⟨hlearns.waiting, rfl, ?_⟩
      simp [fail_eq, inProgress, hlearns.waiting, hlearns.callbacks, hexchange,
        List.perm_iff_count, List.count_cons]
      omega
    · rw [heq]
      obtain ⟨call, purpose⟩ := exchange
      cases purpose <;>
        refine ⟨rfl, rfl, ?_⟩ <;>
        simp [Purpose.isUnregister, takeRelease, takeGrant, succeed, release, tell, inProgress,
          hexchange, List.perm_iff_count, List.count_cons] <;>
        omega

end Manager

/-- A move serves the line from its head and lets others join at its end. -/
theorem Move.line {m n : Manager} {begun : List Origin} {joined : List Waiter} {served : List Turn}
    {effects : List Effect} (hmove : Move m begun joined served n effects) :
    served.map Turn.waiter ++ n.waiting = m.waiting ++ joined := by
  cases hmove with
  | arrive | fire | redeem | proceed => rfl
  | defer | conclude => simp
  | decline first rest answer hfree hline => simp [hline]
  | pass first rest hfree hline => simp [hline]
  | work first rest work hfree hline hwork =>
    rw [(Manager.perform_line { m with waiting := rest } first.call work hfree).1, hline]
    simp

/-- A move neither loses a call nor makes one up. -/
theorem Move.calls {m n : Manager} {begun : List Origin} {joined : List Waiter} {served : List Turn}
    {effects : List Effect} (hmove : Move m begun joined served n effects) :
    (effects.filterMap Effect.finished? ++ n.inProgress).Perm
      (m.inProgress ++ begun.map Origin.call) := by
  have hcount {callback : Callback} (hcallback : callback ∈ m.callbacks) (call : CallId) :=
    ((List.perm_cons_erase hcallback).map Callback.call).count_eq call
  have hfirst {first : Waiter} {rest : List Waiter} (hfree : m.exchange = none)
      (hline : m.waiting = first :: rest) :
      m.inProgress = first.call :: { m with waiting := rest }.inProgress := by
    simp [Manager.inProgress, hfree, hline]
  cases hmove with
  | arrive call | fire call =>
    have hlast := (List.perm_append_singleton call (m.callbacks.map Callback.call)).symm
    simpa [Manager.inProgress, Origin.call] using (hlast.append_left _).append_left _
  | defer call => exact (List.perm_append_singleton call m.inProgress).symm
  | conclude callback answer hcallback | redeem callback hcallback | proceed callback hcallback =>
    rw [List.perm_iff_count]
    intro call
    have h := hcount hcallback call
    simp [Manager.inProgress, Effect.finished?, List.count_cons] at h ⊢
    omega
  | decline first rest answer hfree hline =>
    rw [hfirst hfree hline, List.map_nil, List.append_nil]
    exact .refl _
  | pass first rest hfree hline =>
    rw [hfirst hfree hline]
    simp [Manager.inProgress, hfree, List.perm_iff_count, List.count_cons]
    omega
  | work first rest work hfree hline hwork =>
    obtain ⟨_, hfinished, hcalls⟩ :=
      Manager.perform_line { m with waiting := rest } first.call work hfree
    rw [hfirst hfree hline, hfinished, List.map_nil, List.append_nil]
    exact hcalls

/-- Moves serve the line from its head and let others join at its end. -/
theorem Moves.line {m n : Manager} {begun : List Origin} {joined : List Waiter} {served : List Turn}
    {effects : List Effect} (hmoves : Moves m begun joined served n effects) :
    served.map Turn.waiter ++ n.waiting = m.waiting ++ joined := by
  induction hmoves with
  | refl => simp
  | cons hmove _ ih =>
    rw [List.map_append, List.append_assoc, ih, ← List.append_assoc, hmove.line, List.append_assoc]

/-- Moves neither lose a call nor make one up. -/
theorem Moves.calls {m n : Manager} {begun : List Origin} {joined : List Waiter}
    {served : List Turn} {effects : List Effect} (hmoves : Moves m begun joined served n effects) :
    (effects.filterMap Effect.finished? ++ n.inProgress).Perm
      (m.inProgress ++ begun.map Origin.call) := by
  induction hmoves with
  | refl => simp
  | cons hmove _ ih =>
    rw [List.filterMap_append, List.append_assoc, List.map_append]
    refine (ih.append_left _).trans ?_
    rw [← List.append_assoc, ← List.append_assoc]
    exact hmove.calls.append_right _

namespace Manager

/-- A step serves the line from its head and lets others join at its end. -/
theorem turns_append_waiting (m : Manager) (now : Instant) (event : Event) :
    (m.turns now event).map Turn.waiter ++ (m.step now event).1.waiting =
      m.waiting ++ m.joins now event := by
  cases event with
  | replied reply =>
    simp only [turns, joins, List.map_nil, ite_self, List.nil_append, List.append_nil]
    exact (m.receive_line now reply).1
  | called | granted | returned | fired => exact (m.moves_step now (by simp)).line

/-- **First come, first served.** Over any run, those who had a turn with the lock and those who
still wait for one are those who waited at the start and those who got in line since, in order. -/
theorem served_append_waiting (m : Manager) (history : History) :
    (m.served history).map Turn.waiter ++ (m.after history).waiting =
      m.waiting ++ m.joined history := by
  induction history generalizing m with
  | nil => simp [served, joined]
  | cons entry history ih =>
    obtain ⟨now, event⟩ := entry
    have hstep := m.turns_append_waiting now event
    have hrest := ih (m.step now event).1
    simp only [served, joined, along_cons, after_cons] at hrest ⊢
    rw [List.map_append, List.append_assoc, hrest, ← List.append_assoc, hstep, List.append_assoc]

/-- **No call is lost.** Over any run, the calls that ended and those in progress are those that
were in progress at the start and those that began since. -/
theorem finished_append_inProgress (m : Manager) (history : History) :
    ((m.trace history).filterMap Effect.finished? ++ (m.after history).inProgress).Perm
      (m.inProgress ++ (m.begun history).map Origin.call) := by
  induction history generalizing m with
  | nil => simp [trace, begun]
  | cons entry history ih =>
    obtain ⟨now, event⟩ := entry
    have hstep : ((m.step now event).2.filterMap Effect.finished? ++
        (m.step now event).1.inProgress).Perm
          (m.inProgress ++ (m.begins now event).map Origin.call) := by
      cases event with
      | replied reply =>
        obtain ⟨_, hfinished, hcalls⟩ := m.receive_line now reply
        simpa [begins, step, hfinished] using hcalls
      | called | granted | returned | fired => exact (m.moves_step now (by simp)).calls
    have hrest := ih (m.step now event).1
    simp only [trace, begun, along_cons, after_cons, List.filterMap_append, List.map_append,
      List.append_assoc] at hrest ⊢
    refine (hrest.append_left _).trans ?_
    rw [← List.append_assoc, ← List.append_assoc]
    exact hstep.append_right _

end Manager

end ImsClient.Registration
