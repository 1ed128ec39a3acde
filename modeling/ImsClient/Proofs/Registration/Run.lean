import ImsClient.Proofs.Run
import ImsClient.Registration.Manager

/-!
# Runs of the manager

A run is a list of events, each with the point of time at which it happens. Any
list is a run: callers, the transport, the listener and the timer may do what they
like in any order, and an event that has nothing to act on changes nothing.
-/

namespace ImsClient.Registration

/-- The events that happen to a manager, the first one first. -/
abbrev History := List (Instant × Event)

/-- A plain 200. -/
def Reply.accepted : Reply := .response { status := 200 }

namespace Effect

/-- The request that an effect sends, if it sends one. -/
def sent? : Effect → Option Sip.Request
  | send request _ => some request
  | _ => none

/-- How long the reply to the request is awaited that an effect sends, if it sends one. -/
def patience? : Effect → Option Duration
  | send _ patience => some patience
  | _ => none

/-- As many replies are awaited as requests are sent. -/
theorem length_patience? (effects : List Effect) :
    (effects.filterMap patience?).length = (effects.filterMap sent?).length := by
  induction effects with
  | nil => rfl
  | cons effect effects ih =>
    cases effect with
    | send => exact congrArg Nat.succ ih
    | tell | finish => exact ih

/-- The notice that an effect gives the listener, with the call that gives it, if it gives one. -/
def told? : Effect → Option (CallId × Notice)
  | tell call notice => some (call, notice)
  | _ => none

/-- The call that an effect ends, if it ends one. -/
def finished? : Effect → Option CallId
  | finish call _ => some call
  | _ => none

end Effect

namespace Manager

/-- A manager to which nothing has happened yet. -/
def IsNew (m : Manager) : Prop := ∃ settings bound procedure, m = create settings bound procedure

/-- A new manager, for examples. -/
def sample : Manager :=
  create { homeDomain := "a", publicUri := "sip:b@a" } ⟨.v4 [10, 0, 0, 2], 5060⟩ .giba

/-- The manager of the examples is new. -/
theorem sample_isNew : sample.IsNew := ⟨_, _, _, rfl⟩

/-- What an event at a point of time makes of the manager. -/
def next (m : Manager) (entry : Instant × Event) : Manager := (m.step entry.1 entry.2).1

/-- The manager after a run. -/
def after (m : Manager) (history : History) : Manager := Run.after next m history

/-- What is observed along a run, where an observation is made of the manager that each event
happens to. -/
def along {α : Type} (observe : Manager → Instant → Event → List α) (m : Manager)
    (history : History) : List α :=
  Run.along next (fun m entry => observe m entry.1 entry.2) m history

/-- The effects of a run, in order. -/
def trace (m : Manager) (history : History) : List Effect :=
  m.along (fun m now event => (m.step now event).2) history

variable {α : Type} {observe : Manager → Instant → Event → List α}

@[simp] theorem after_nil (m : Manager) : m.after [] = m := rfl

/-- A run is a step and the run from there. -/
theorem after_cons (m : Manager) (now : Instant) (event : Event) (rest : History) :
    m.after ((now, event) :: rest) = (m.step now event).1.after rest := rfl

/-- A run that goes on leads where its rest leads from where it stood. -/
theorem after_append (m : Manager) (first rest : History) :
    m.after (first ++ rest) = (m.after first).after rest := Run.after_append m first rest

/-- One more event takes the manager one step further. -/
theorem after_concat (m : Manager) (history : History) (now : Instant) (event : Event) :
    m.after (history ++ [(now, event)]) = ((m.after history).step now event).1 :=
  Run.after_concat m history (now, event)

@[simp] theorem along_nil (m : Manager) : m.along observe [] = [] := rfl

/-- What is observed along a run is observed of its first event, and then along the rest. -/
theorem along_cons (observe : Manager → Instant → Event → List α) (m : Manager) (now : Instant)
    (event : Event) (rest : History) :
    m.along observe ((now, event) :: rest) =
      observe m now event ++ (m.step now event).1.along observe rest := rfl

/-- What is observed along a run that goes on is what was observed, and then what is observed from
where it stood. -/
theorem along_append (observe : Manager → Instant → Event → List α) (m : Manager)
    (first rest : History) :
    m.along observe (first ++ rest) =
      m.along observe first ++ (m.after first).along observe rest := Run.along_append m first rest

/-- One more event adds what is observed of it. -/
theorem along_concat (observe : Manager → Instant → Event → List α) (m : Manager)
    (history : History) (now : Instant) (event : Event) :
    m.along observe (history ++ [(now, event)]) =
      m.along observe history ++ observe (m.after history) now event :=
  Run.along_concat m history (now, event)

/-- What is observed along a run is observed of some event, after those before it. -/
theorem mem_along {x : α} (observe : Manager → Instant → Event → List α) (m : Manager)
    (history : History) :
    x ∈ m.along observe history ↔
      ∃ before now event rest, history = before ++ (now, event) :: rest ∧
        x ∈ observe (m.after before) now event := by
  refine (Run.mem_along m history).trans (exists_congr fun before => ?_)
  rw [Prod.exists]
  rfl

/-- What holds of a run of no events, and goes on to hold with one more event, holds of every run
and the manager after it. -/
theorem after_induction {p : History → Manager → Prop} (m : Manager) (hnil : p [] m)
    (hstep : ∀ history now event, p history (m.after history) →
      p (history ++ [(now, event)]) ((m.after history).step now event).1)
    (history : History) : p history (m.after history) :=
  Run.after_induction m hnil (fun history entry => hstep history entry.1 entry.2) history

end Manager

end ImsClient.Registration
