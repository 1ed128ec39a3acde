import ImsClient.Proofs.Session.Progress
import Mathlib.Data.List.Induction

/-!
# The life of a session

The listener is told of every change of state. Along a run the changes that it is told
of lead from the first state of the session to the state that it is in, each to a state
that may follow; and since every change is to a later state, there are four of them at
most. The flags of the dialog can be told from them: it is established once the session
started, and cancelled once the session was aborted or terminated.
-/

namespace ImsClient.Session

namespace State

/-- How late in its life a session is in a state. -/
def rank : State → Nat
  | initiated => 0
  | invited => 1
  | accepting => 2
  | started => 3
  | aborted | terminated | rejected | failed => 4

/-- The terminal states are the last ones. -/
theorem rank_le (state : State) : state.rank ≤ 4 := by
  cases state <;> decide

/-- A session goes on to later states only. -/
theorem rank_lt_of_canBecome {state target : State} (h : state.canBecome target = true) :
    state.rank < target.rank := by
  revert h
  cases state <;> cases target <;> decide

/-- Changes of state that lead from a state to another one: each of them starts where the last one
ended, and is one that the session can make. -/
inductive Leads : State → List (State × State) → State → Prop where
  | refl (state : State) : Leads state [] state
  | step {state next target : State} {rest : List (State × State)}
      (first : state.canBecome next = true) (further : Leads next rest target) :
      Leads state ((state, next) :: rest) target

namespace Leads

variable {state target next : State} {log before later : List (State × State)}
  {change : State × State}

/-- One more change, at the end. -/
theorem concat (h : Leads state log target) (hnext : target.canBecome next = true) :
    Leads state (log ++ [(target, next)]) next := by
  induction h with
  | refl state => exact .step hnext (.refl next)
  | step first further ih => exact .step first (ih hnext)

/-- The changes from one on lead from the state that it is to. -/
theorem drop (h : Leads state (before ++ change :: later) target) :
    Leads change.2 later target := by
  induction before generalizing state with
  | nil =>
    cases h with
    | step first further => exact further
  | cons earlier before ih =>
    cases h with
    | step first further => exact ih further

/-- There are no more changes than there are states in between. -/
theorem length_le (h : Leads state log target) : log.length + state.rank ≤ target.rank := by
  induction h with
  | refl state => simp
  | step first further ih =>
    have hfirst := rank_lt_of_canBecome first
    rw [List.length_cons]
    omega

/-- None leads on from a terminal state. -/
theorem eq_nil_of_isTerminal (h : Leads state log target) (hterminal : state.isTerminal = true) :
    log = [] := by
  cases h with
  | refl state => rfl
  | step first further =>
    rw [canBecome_of_isTerminal hterminal] at first
    cases first

end Leads

end State

namespace Service

/-- The changes of state that the listener is told of along a run, in order. -/
def changes (s : Service) : List Act → List (State × State) :=
  s.along fun s act => (s.act act).2.filterMap Effect.change?

/-- What the listener is told by the last act comes last. -/
theorem changes_concat (s : Service) (acts : List Act) (act : Act) :
    s.changes (acts ++ [act]) =
      s.changes acts ++ ((s.after acts).act act).2.filterMap Effect.change? :=
  s.along_concat _ acts act

/-- A session as its listener knows it: the changes that it was told of lead to the state of the
session, and the flags of the dialog are what these changes say. -/
structure Told (s : Service) (log : List (State × State)) : Prop where
  leads : State.Leads .initiated log s.state
  flags : ∀ established cancelled, s.progress.flags = some (established, cancelled) →
    (established = true ↔ ∃ change ∈ log, change.2 = .started) ∧
      (cancelled = true ↔ s.state = .aborted ∨ s.state = .terminated)

variable {s : Service} {log : List (State × State)}

/-- What moves a session on otherwise than to a state tells of no change. -/
theorem Told.of_progress {n : Service} (h : s.Told log) (hstate : n.state = s.state)
    (hflags : n.progress.flags = s.progress.flags) : n.Told log where
  leads := hstate ▸ h.leads
  flags established cancelled hsome := by
    rw [hstate]
    exact h.flags established cancelled (hflags ▸ hsome)

/-- A change to a state that may follow is told as it is made. -/
theorem Told.enter (h : s.Told log) {target : State}
    (hfollows : s.state.canBecome target = true) :
    (s.enter target).Told (log ++ [(s.state, target)]) where
  leads := h.leads.concat hfollows
  flags established cancelled hsome := by
    rw [progress_enter] at hsome
    obtain ⟨⟨before, ended⟩, hbefore, heq⟩ := Option.map_eq_some_iff.mp hsome
    obtain ⟨hstarted, hended⟩ := h.flags before ended hbefore
    simp only [Prod.mk.injEq] at heq
    obtain ⟨rfl, rfl⟩ := heq
    -- A state that may be followed is not one of the two that cancel.
    have hlive : ended = false := by
      refine Bool.eq_false_iff.mpr fun hcancelled => ?_
      have hterminal : s.state.isTerminal = true := by
        rcases hended.mp hcancelled with hstate | hstate <;> rw [hstate] <;> rfl
      rw [State.canBecome_of_isTerminal hterminal] at hfollows
      cases hfollows
    constructor
    · simp only [Bool.or_eq_true, hstarted, decide_eq_true_eq, List.mem_append,
        List.mem_singleton, or_and_right, exists_or, exists_eq_left]
    · simp [hlive, Service.enter]

/-- **What an act tells.** Whatever is done to a session, its listener knows it as it is. -/
theorem Told.act (h : s.Told log) (act : Act) :
    (s.act act).1.Told (log ++ (s.act act).2.filterMap Effect.change?) := by
  by_cases hmoved : ∃ target, act = .moved target
  · obtain ⟨target, rfl⟩ := hmoved
    rcases s.moved_cases target with heq | ⟨hfollows, heq⟩
    · rw [heq]
      simpa using h
    · rw [heq]
      exact h.enter hfollows
  · obtain ⟨hprogress, hsilent⟩ := s.act_progress fun target heq => hmoved ⟨target, heq⟩
    obtain ⟨hstate, hflags, _⟩ := Progress.iterate_advance (s.attempts act).length s.progress
    rw [← hprogress] at hstate hflags
    rw [hsilent, List.append_nil]
    exact h.of_progress hstate hflags

/-- Along a run the listener knows the session as it is. -/
theorem told_after (hstate : s.state = .initiated)
    (hflags : ∀ dialog, s.dialog = some dialog →
      dialog.established = false ∧ dialog.cancelled = false) (acts : List Act) :
    (s.after acts).Told (s.changes acts) := by
  induction acts using List.reverseRecOn with
  | nil =>
    refine ⟨hstate ▸ .refl _, fun established cancelled hsome => ?_⟩
    obtain ⟨dialog, hdialog, heq⟩ := Option.map_eq_some_iff.mp hsome
    obtain ⟨hestablished, hcancelled⟩ := hflags dialog hdialog
    simp only [hestablished, hcancelled, Prod.mk.injEq] at heq
    obtain ⟨rfl, rfl⟩ := heq
    simp [changes, hstate]
  | append_singleton acts act ih =>
    rw [after_concat, changes_concat]
    exact ih.act act

/-- A session with a dialog keeps one, and a session without a dialog gets none. -/
theorem isSome_dialog_after (s : Service) (acts : List Act) :
    (s.after acts).dialog.isSome = s.dialog.isSome := by
  have hflags (n : Service) : n.progress.flags.isSome = n.dialog.isSome := by simp [progress]
  have hact (n : Service) (act : Act) :
      (n.act act).1.progress.flags.isSome = n.progress.flags.isSome := by
    by_cases hmoved : ∃ target, act = .moved target
    · obtain ⟨target, rfl⟩ := hmoved
      rcases n.moved_cases target with heq | ⟨_, heq⟩
      · rw [heq]
      · rw [heq, progress_enter, Option.isSome_map]
    · obtain ⟨hprogress, _⟩ := n.act_progress fun target heq => hmoved ⟨target, heq⟩
      rw [hprogress, (Progress.iterate_advance _ n.progress).2.1]
  induction acts using List.reverseRecOn with
  | nil => rfl
  | append_singleton acts act ih =>
    rw [after_concat, ← hflags, hact, hflags, ih]

/-- **A session lives once.** Whatever is done to a new session, the changes that its listener is
told of lead from the first state to the present one, each as it may follow; there are four of them
at most, and none after a terminal state. The dialog, if there is one, is established exactly if
one of them was to the start, and cancelled exactly if the session is aborted or terminated. To set
a state fails exactly if it is not the present one and may not follow it; a call that fails changes
nothing and tells nothing, and neither does one that sets the present state. -/
theorem changes_lead_to_state (s : Service) (hstate : s.state = .initiated)
    (hflags : ∀ dialog, s.dialog = some dialog →
      dialog.established = false ∧ dialog.cancelled = false) (acts : List Act) :
    let n := s.after acts
    let log := s.changes acts
    State.Leads .initiated log n.state ∧ log.length ≤ 4 ∧
    (∀ before change later, log = before ++ change :: later → change.2.isTerminal = true →
      later = []) ∧
    n.dialog.isSome = s.dialog.isSome ∧
    (∀ dialog, n.dialog = some dialog →
      (dialog.established = true ↔ ∃ change ∈ log, change.2 = .started) ∧
        (dialog.cancelled = true ↔ n.state = .aborted ∨ n.state = .terminated)) ∧
    ∀ target,
      ((∃ error, n.setState target = .error error) ↔
        n.state ≠ target ∧ n.state.canBecome target = false) ∧
      (n.state = target ∨ (∃ error, n.setState target = .error error) →
        s.after (acts ++ [.moved target]) = n ∧ s.changes (acts ++ [.moved target]) = log) := by
  intro n log
  have htold : n.Told log := told_after hstate hflags acts
  refine ⟨htold.leads, ?_, ?_, s.isSome_dialog_after acts, ?_, fun target => ?_⟩
  · have hlength := htold.leads.length_le
    have hlast := n.state.rank_le
    have hfirst : State.initiated.rank = 0 := rfl
    omega
  · intro before change later hlog hterminal
    have hlater : State.Leads change.2 later n.state := (hlog ▸ htold.leads).drop
    exact hlater.eq_nil_of_isTerminal hterminal
  · intro dialog hdialog
    exact htold.flags dialog.established dialog.cancelled (by simp [progress, hdialog])
  · have hnothing (hact : n.act (.moved target) = (n, [])) :
        s.after (acts ++ [.moved target]) = n ∧ s.changes (acts ++ [.moved target]) = log := by
      rw [after_concat, changes_concat]
      show (n.act (.moved target)).1 = n ∧ log ++ _ = log
      rw [hact]
      exact ⟨rfl, List.append_nil log⟩
    rcases n.setState_cases target with ⟨hsame, heq⟩ | ⟨hfollows, heq⟩ | ⟨hother, hrefused, heq⟩
    · refine ⟨by simp [heq, hsame], fun _ => hnothing ?_⟩
      simp only [Service.act, heq]
    · have hother : n.state ≠ target := by
        intro hsame
        have hlater := State.rank_lt_of_canBecome hfollows
        rw [hsame] at hlater
        exact Nat.lt_irrefl _ hlater
      refine ⟨by simp [heq, hfollows], fun hidle => ?_⟩
      rcases hidle with hsame | ⟨error, hfailed⟩
      · exact absurd hsame hother
      · rw [heq] at hfailed
        cases hfailed
    · refine ⟨⟨fun _ => ⟨hother, hrefused⟩, fun _ => ⟨_, heq⟩⟩, fun _ => hnothing ?_⟩
      simp only [Service.act, heq]

/-- An example: an invitation is accepted and ends. In between, one call sets the present state and
one asks for a state that the session has left behind; a call after the end fails as well. -/
def sampleLife : List Act :=
  [.moved .invited, .moved .started, .moved .started, .moved .accepting, .moved .terminated,
    .moved .failed]

/-- In the example the listener is told of three changes, and the dialog is established and
cancelled. -/
theorem three_changes_in_sample :
    (sample.state = .initiated ∧ ∀ dialog, sample.dialog = some dialog →
      dialog.established = false ∧ dialog.cancelled = false) ∧
    State.Leads .initiated
      [(.initiated, .invited), (.invited, .started), (.started, .terminated)] .terminated ∧
    ∃ dialog, (sample.after sampleLife).dialog = some dialog ∧ dialog.established = true ∧
      dialog.cancelled = true := by
  have hflags : ∀ dialog, sample.dialog = some dialog →
      dialog.established = false ∧ dialog.cancelled = false := by
    rintro dialog ⟨⟩
    exact ⟨rfl, rfl⟩
  obtain ⟨hleads, _, _, hsome, hdialog, _⟩ := changes_lead_to_state sample rfl hflags sampleLife
  obtain ⟨dialog, hdialog'⟩ := Option.isSome_iff_exists.mp (hsome.trans rfl)
  obtain ⟨hestablished, hcancelled⟩ := hdialog dialog hdialog'
  refine ⟨⟨rfl, hflags⟩, hleads, dialog, hdialog', hestablished.mpr ?_, hcancelled.mpr ?_⟩
  · exact ⟨(.invited, .started), by decide +kernel, rfl⟩
  · exact .inr (by decide +kernel)

end Service

end ImsClient.Session
