import ImsClient.Proofs.Dialog.Request
import ImsClient.Proofs.Run
import ImsClient.Session.Service

/-!
# Runs of a session

What is done to a session is an act at a time: its user builds a re-INVITE, takes a
decision or moves the session on, or something happens to one of its tasks. Any list
of acts is a run, so the tasks may overlap in any way. A re-INVITE is built by the
user, or by a task whose offer the proxy challenged.
-/

namespace ImsClient.Session

inductive Act where
  /-- A re-INVITE is built, to be sent some time. -/
  | created (offer : Description)
  /-- The decision is cleared. -/
  | prepared
  | accepted
  | rejected (status : Option Nat)
  /-- The session is moved on to a state, if it can be. -/
  | moved (target : State)
  /-- Something happens to a task at a point of time. -/
  | happened (now : Instant) (event : Event)

namespace Effect

/-- The re-INVITE that an effect sends. -/
def sent? : Effect → Option Sip.Request
  | send _ request _ => some request
  | _ => none

/-- How long something is awaited because of an effect: the reply to a re-INVITE, or an ACK. -/
def patience? : Effect → Option Duration
  | send _ _ patience | awaitAck _ _ _ patience => some patience
  | _ => none

/-- The ACK that an effect hands to the transport, with the task that does. -/
def acknowledged? : Effect → Option (TaskId × Sip.Request)
  | acknowledge task request => some (task, request)
  | _ => none

end Effect

namespace Service

/-- What an act does. -/
def act (s : Service) : Act → Service × List Effect
  | .created offer =>
    let (s, effects, _) := s.createReinvite offer
    (s, effects)
  | .prepared => (s.prepare, [])
  | .accepted => (s.accept, [])
  | .rejected status => (s.reject status, [])
  | .moved target =>
    match s.setState target with
    | .ok result => result
    | .error _ => (s, [])
  | .happened now event => s.step now event

/-- What an act makes of the session. -/
def next (s : Service) (act : Act) : Service := (s.act act).1

/-- The session after a run. -/
def after (s : Service) (acts : List Act) : Service := Run.after next s acts

/-- What is gathered, act by act, along a run. -/
def along {α : Type} (gather : Service → Act → List α) (s : Service) (acts : List Act) : List α :=
  Run.along next gather s acts

/-- The re-INVITE that is built by an act: the user's, or that of a task that sends one more because
of the reply that it got. -/
def made (s : Service) : Act → List Sip.Request
  | .created offer =>
    match (s.createReinvite offer).2.2 with
    | .ok request => [request]
    | .error _ => []
  | .happened now (.replied task reply) =>
    (s.step now (.replied task reply)).2.filterMap Effect.sent?
  | _ => []

/-- The re-INVITEs that are built along a run, in order. -/
def built (s : Service) (acts : List Act) : List Sip.Request := s.along made acts

variable {α : Type} {gather : Service → Act → List α}

@[simp] theorem after_nil (s : Service) : s.after [] = s := rfl

/-- A run is an act and the run from there. -/
theorem after_cons (s : Service) (act : Act) (rest : List Act) :
    s.after (act :: rest) = (s.act act).1.after rest := rfl

/-- A run that goes on leads where its rest leads from where it stood. -/
theorem after_append (s : Service) (first rest : List Act) :
    s.after (first ++ rest) = (s.after first).after rest := Run.after_append s first rest

/-- One more act takes the session one step further. -/
theorem after_concat (s : Service) (acts : List Act) (act : Act) :
    s.after (acts ++ [act]) = ((s.after acts).act act).1 := Run.after_concat s acts act

@[simp] theorem along_nil (s : Service) : s.along gather [] = [] := rfl

/-- What is gathered along a run is gathered of its first act, and then along the rest. -/
theorem along_cons (gather : Service → Act → List α) (s : Service) (act : Act)
    (rest : List Act) :
    s.along gather (act :: rest) = gather s act ++ (s.act act).1.along gather rest := rfl

/-- Runs one after another gather what each of them gathers. -/
theorem along_append (gather : Service → Act → List α) (s : Service) (first rest : List Act) :
    s.along gather (first ++ rest) =
      s.along gather first ++ (s.after first).along gather rest := Run.along_append s first rest

/-- One more act adds what is gathered of it. -/
theorem along_concat (gather : Service → Act → List α) (s : Service) (acts : List Act)
    (act : Act) :
    s.along gather (acts ++ [act]) = s.along gather acts ++ gather (s.after acts) act :=
  Run.along_concat s acts act

/-- A result leaves the dialog at its number and with the same parties, and neither sends a
re-INVITE nor acknowledges one. -/
structure Quiet (s : Service) (result : Service × List Effect) : Prop where
  dialog : ∀ dialog, s.dialog = some dialog →
    ∃ next, result.1.dialog = some next ∧ dialog.Advances next 0
  sent : result.2.filterMap Effect.sent? = []
  acknowledged : result.2.filterMap Effect.acknowledged? = []

end Service

end ImsClient.Session
