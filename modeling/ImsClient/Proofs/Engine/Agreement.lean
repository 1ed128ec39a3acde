import ImsClient.Engine
import ImsClient.Proofs.Capability.Polling
import ImsClient.Proofs.Registration.Run

/-!
# Started and polling

A client that is started polls as soon as no start is in progress. A client that is
stopped does not poll, with one exception: a start that was in progress when the stop
came goes on, and starts polling when its registration ends, although the client is
stopped by then. What every event keeps is that polling runs or a start is in
progress, exactly while the client is started or such a start is to be reckoned with.
-/

namespace ImsClient

namespace Engine

open Registration (CallId)

/-- The events that happen to a client, the first one first. -/
abbrev History := List (Instant × Event)

/-- What an event at a point of time makes of the client. -/
def next (e : Engine) (entry : Instant × Event) : Engine := (e.step entry.1 entry.2).1

/-- The client after a run. -/
def after (e : Engine) (history : History) : Engine := Run.after next e history

/-- If an event stops the client, whether a start is in progress when it comes. A client that is
not started is not stopped. -/
def stops? (e : Engine) : Event → Option Bool
  | .stopped _ => if e.started then some (!e.starting.isEmpty) else none
  | _ => none

/-- Whether a start was in progress when the client was last stopped, in a run or before it. -/
def crossed (e : Engine) (earlier : Bool) : History → Bool
  | [] => earlier
  | (now, event) :: rest => crossed (e.step now event).1 ((e.stops? event).getD earlier) rest

/-- Polling runs, or it will when a start that is in progress ends. -/
def WillPoll (e : Engine) : Prop := e.polling.running = true ∨ e.starting ≠ []

/-- How a client stands, if polling is enabled: it will poll if it is started, or if a start was in
progress when it was last stopped. -/
structure Agrees (e : Engine) (crossed : Bool) : Prop where
  enabled : e.polling.isEnabled = true
  started : e.started = true → e.WillPoll
  stopped : e.started = false → (e.WillPoll ↔ crossed = true)

namespace Agrees

variable {e : Engine} {crossed : Bool}

/-- Another client agrees in the same way if it is started and will poll in the same cases. -/
theorem of_same {next : Engine} (h : e.Agrees crossed)
    (henabled : next.polling.isEnabled = e.polling.isEnabled)
    (hstarted : next.started = e.started) (hpolls : next.WillPoll ↔ e.WillPoll) :
    next.Agrees crossed where
  enabled := henabled.trans h.enabled
  started hnext := hpolls.mpr (h.started (hstarted ▸ hnext))
  stopped hnext := hpolls.trans (h.stopped (hstarted ▸ hnext))

/-- The end of a start starts the polling that was to come, and nothing else that the registration
does counts. -/
theorem absorb (h : e.Agrees crossed) (now : Instant) (effect : Registration.Effect) :
    (e.absorb now effect).1.Agrees crossed := by
  unfold Engine.absorb
  split
  · split
    · rename_i call answer hcall
      refine h.of_same (Capability.Polling.isEnabled_start ..) rfl ?_
      refine ⟨fun _ => .inr (List.ne_nil_of_mem hcall), fun _ => .inl ?_⟩
      exact Capability.Polling.running_start h.enabled now
    · split <;> exact h.of_same rfl rfl .rfl
  · exact h

/-- Nothing else that the registration does counts. -/
theorem absorbAll (h : e.Agrees crossed) (now : Instant) (effects : List Registration.Effect) :
    (e.absorbAll now effects).1.Agrees crossed := by
  induction effects generalizing e with
  | nil => exact h
  | cons effect effects ih => exact ih (h.absorb now effect)

/-- What happens to the registration keeps the agreement. -/
theorem register (h : e.Agrees crossed) (now : Instant) (event : Registration.Event) :
    (e.register now event).1.Agrees crossed := by
  have hnext : { e with registration := (e.registration.step now event).1 }.Agrees crossed :=
    h.of_same rfl rfl .rfl
  exact hnext.absorbAll now (e.registration.step now event).2

/-- Every event keeps the agreement; a stop settles whether a start crossed it. -/
theorem step (h : e.Agrees crossed) (now : Instant) (event : Event) :
    (e.step now event).1.Agrees ((e.stops? event).getD crossed) := by
  cases event with
  | registration event => exact h.register now event
  | pollingFired round =>
    obtain ⟨hrunning, henabled⟩ := e.polling.fire_keeps now.wholeMilliseconds.toNat round
    refine h.of_same henabled rfl ?_
    simp only [Engine.step, WillPoll, hrunning]
  | scanned round =>
    obtain ⟨hrunning, henabled⟩ := e.polling.endRound_keeps now round
    refine h.of_same henabled rfl ?_
    simp only [Engine.step, WillPoll, hrunning]
  | started call =>
    cases hstarted : e.started with
    | true =>
      simp only [Engine.step, start, hstarted, if_true]
      exact h
    | false =>
      simp only [Engine.step, start, hstarted, Bool.false_eq_true, if_false]
      have hnext : { e with started := true, starting := call :: e.starting }.Agrees crossed :=
        ⟨h.enabled, fun _ => .inr (List.cons_ne_nil _ _), by rintro ⟨⟩⟩
      exact hnext.register now _
  | stopped call =>
    cases hstarted : e.started with
    | true =>
      simp only [Engine.step, stop, stops?, hstarted, if_true, Option.getD_some]
      have hnext : { e with
          started := false
          polling := e.polling.stop
          stopping := call :: e.stopping }.Agrees !e.starting.isEmpty :=
        ⟨h.enabled, by rintro ⟨⟩, fun _ => by simp [WillPoll, Capability.Polling.stop]⟩
      exact hnext.register now _
    | false => simpa [Engine.step, stop, stops?, hstarted] using h

/-- Every run keeps the agreement. -/
theorem after (h : e.Agrees crossed) (history : History) :
    (e.after history).Agrees (e.crossed crossed history) := by
  induction history generalizing e crossed with
  | nil => exact h
  | cons entry history ih => exact ih (h.step entry.1 entry.2)

end Agrees

/-- **When polling runs.** If polling is enabled, then after every run of a new client, whenever no
start is in progress, polling runs exactly if the client is started or a start was in progress when
it was last stopped. -/
theorem polls_iff (settings : Settings) (bound : Endpoint) (procedure : Registration.Procedure)
    (hperiod : 0 < settings.pollingPeriod) (history : History)
    (hdone : ((ofProcedure settings bound procedure).after history).starting = []) :
    ((ofProcedure settings bound procedure).after history).polling.running = true ↔
      ((ofProcedure settings bound procedure).after history).started = true ∨
        (ofProcedure settings bound procedure).crossed false history = true := by
  have henabled : (Capability.Polling.create settings).isEnabled = true := by
    have hne : Duration.ofMilliseconds settings.pollingPeriod ≠ Duration.zero := by
      intro hzero
      have hnanoseconds : settings.pollingPeriod * 1_000_000 = 0 :=
        congrArg Duration.nanoseconds hzero
      omega
    simpa [Capability.Polling.isEnabled, Capability.Polling.create, Settings.pollingTime] using hne
  have hnew : (ofProcedure settings bound procedure).Agrees false :=
    ⟨henabled, by rintro ⟨⟩, fun _ => by simp [WillPoll, ofProcedure, Capability.Polling.create]⟩
  have hafter := hnew.after history
  have hpolls : ((ofProcedure settings bound procedure).after history).WillPoll ↔
      ((ofProcedure settings bound procedure).after history).polling.running = true := by
    simp [WillPoll, hdone]
  rw [← hpolls]
  cases hstarted : ((ofProcedure settings bound procedure).after history).started with
  | true => simpa using hafter.started hstarted
  | false => simpa using hafter.stopped hstarted

/-- A client for the examples. -/
def sample : Engine :=
  ofProcedure { homeDomain := "a", publicUri := "sip:b@a" } ⟨.v4 [10, 0, 0, 2], 5060⟩ .giba

/-- An example: a client is started and registers; then it is stopped. -/
def sampleStopped : History :=
  [(0, .started 0), (1, .registration (.replied .accepted)), (1, .registration (.returned 0)),
    (2, .stopped 1), (3, .registration (.replied .accepted)), (3, .registration (.returned 1))]

/-- In the example, the stop came after the start had ended, and polling does not run any more. -/
theorem stopped_sample_polls_not :
    0 < sample.registration.settings.pollingPeriod ∧ (sample.after sampleStopped).starting = [] ∧
      (sample.after sampleStopped).polling.running = false := by
  have hdone : (sample.after sampleStopped).starting = [] := by decide +kernel
  refine ⟨by decide +kernel, hdone, ?_⟩
  have hpolls := polls_iff { homeDomain := "a", publicUri := "sip:b@a" } ⟨.v4 [10, 0, 0, 2], 5060⟩
    .giba (by decide) sampleStopped hdone
  rw [← Bool.not_eq_true]
  exact fun hrunning => absurd (hpolls.mp hrunning) (by decide +kernel)

/-- But if the client is stopped while its start still waits for the registration, polling runs on
the stopped client when neither is in progress any more. -/
theorem polls_though_stopped :
    let e := sample.after
      [(0, .started 0), (1, .stopped 1), (2, .registration (.replied .accepted)),
        (2, .registration (.returned 0)), (3, .registration (.replied .accepted)),
        (3, .registration (.returned 0))]
    e.starting = [] ∧ e.stopping = [] ∧ e.started = false ∧ e.polling.running = true := by
  decide +kernel

end Engine

end ImsClient
