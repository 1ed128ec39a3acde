import ImsClient.Proofs.Dialog.Request
import ImsClient.Proofs.Places
import ImsClient.Proofs.Registration.Attempt
import Mathlib.Data.List.Induction

/-!
# Traffic with the registrar

What passes between a manager and the registrar is a list of signals: requests that
were sent, and replies that an exchange heard. It falls into blocks, one for each
dialog. In a block the requests are numbered from one on, and lead to where the
latest 302 of the block sent them; over all blocks, the lifetime to ask for is the
one that the latest 423 taught.
-/

namespace ImsClient.Registration

/-- A request that was sent in an exchange, or a reply that an exchange heard. -/
inductive Signal where
  | sent (purpose : Purpose) (request : Sip.Request)
  | heard (purpose : Purpose) (reply : Reply)
deriving DecidableEq

/-- What passed, the first signal first. -/
abbrev Traffic := List Signal

namespace Signal

/-- The request that a signal sends. -/
def request? : Signal → Option Sip.Request
  | sent _ request => some request
  | heard .. => none

/-- The place that a 302 names first. -/
def redirection? : Signal → Option String
  | heard _ (.response response) =>
    if response.status = 302 then
      (Sip.Headers.contacts response.headers).head?.map fun contact => contact.uri.text .plain
    else none
  | _ => none

/-- The least lifetime that a 423 to a REGISTER asks for. -/
def minimum? : Signal → Option Nat
  | heard .register (.response response) =>
    if response.status = 423 then seconds? response "Min-Expires" else none
  | _ => none

/-- A least lifetime that is asked for is positive, and within the range of seconds. -/
theorem minimum?_bounds {signal : Signal} {seconds : Nat} (h : signal.minimum? = some seconds) :
    0 < seconds ∧ seconds ≤ Text.maxSeconds := by
  unfold minimum? at h
  split at h
  · split at h
    · obtain ⟨value, -, hvalue⟩ := Option.bind_eq_some_iff.mp h
      exact Text.positiveSeconds?_bounds hvalue
    · cases h
  · cases h

end Signal

namespace Traffic

variable {α : Type}

/-- The latest of what is observed, or else what there was at first. -/
def latest (observe : Signal → Option α) (first : α) (traffic : Traffic) : α :=
  ((traffic.filterMap observe).getLast?).getD first

/-- One more signal replaces the latest of what is observed, if anything is observed of it. -/
theorem latest_concat (observe : Signal → Option α) (first : α) (traffic : Traffic)
    (signal : Signal) :
    latest observe first (traffic ++ [signal]) =
      (observe signal).getD (latest observe first traffic) := by
  unfold latest
  rw [List.filterMap_append]
  cases hobserved : observe signal with
  | none => simp [hobserved]
  | some x => simp [hobserved]

/-- The latest is what there was at first, or is observed of some signal. -/
theorem latest_eq_or_exists (observe : Signal → Option α) (first : α) (traffic : Traffic) :
    latest observe first traffic = first ∨
      ∃ signal ∈ traffic, observe signal = some (latest observe first traffic) := by
  induction traffic using List.reverseRecOn with
  | nil => exact .inl rfl
  | append_singleton traffic signal ih =>
    rw [latest_concat]
    cases hobserved : observe signal with
    | none => exact ih.imp_right fun ⟨other, hmem, hother⟩ =>
        ⟨other, List.mem_append_left _ hmem, hother⟩
    | some x => exact .inr ⟨signal, by simp, hobserved⟩

/-- What holds of what there was at first, and of all that is observed, holds of the latest. -/
theorem latest_of_forall {p : α → Prop} {observe : Signal → Option α} {first : α}
    (hfirst : p first) (hobserve : ∀ signal x, observe signal = some x → p x)
    (traffic : Traffic) : p (latest observe first traffic) := by
  rcases latest_eq_or_exists observe first traffic with heq | ⟨signal, -, hobserved⟩
  · rw [heq]
    exact hfirst
  · exact hobserve signal _ hobserved

/-- Where the next request leads: to the latest place that a 302 named, or home. -/
def target (home : String) (traffic : Traffic) : String :=
  latest Signal.redirection? home traffic

/-- The lifetime to ask for: the latest one that a 423 asked for, or the configured one. -/
def lifetime (configured : Nat) (traffic : Traffic) : Nat :=
  latest Signal.minimum? configured traffic

/-- The requests that were sent. -/
def requests (traffic : Traffic) : List Sip.Request := traffic.filterMap Signal.request?

/-- The lifetime to ask for is positive if the configured one is. -/
theorem lifetime_pos {configured : Nat} (hconfigured : 0 < configured) (traffic : Traffic) :
    0 < lifetime configured traffic :=
  latest_of_forall hconfigured (fun _ _ h => (Signal.minimum?_bounds h).1) traffic

/-- The lifetime to ask for is within the range of seconds if the configured one is. -/
theorem lifetime_le {configured : Nat} (hconfigured : configured ≤ Text.maxSeconds)
    (traffic : Traffic) : lifetime configured traffic ≤ Text.maxSeconds :=
  latest_of_forall (p := (· ≤ Text.maxSeconds)) hconfigured
    (fun _ _ h => (Signal.minimum?_bounds h).2) traffic

/-- Every signal is in order after those before it. -/
def Throughout (inOrder : Traffic → Signal → Prop) (traffic : Traffic) : Prop :=
  ∀ before signal rest, traffic = before ++ signal :: rest → inOrder before signal

/-- No signals are in order. -/
theorem throughout_nil (inOrder : Traffic → Signal → Prop) : Throughout inOrder [] := by
  intro before signal rest hsplit
  simp at hsplit

/-- One more signal is to be in order after all others. -/
theorem Throughout.concat {inOrder : Traffic → Signal → Prop} {traffic : Traffic} {signal : Signal}
    (htraffic : Throughout inOrder traffic) (hsignal : inOrder traffic signal) :
    Throughout inOrder (traffic ++ [signal]) := by
  intro before found rest hsplit
  rcases split_concat hsplit with ⟨-, rfl, rfl⟩ | ⟨rest, -, hwhole⟩
  · exact hsignal
  · exact htraffic before found rest hwhole

end Traffic

/-! ### Blocks -/

/-- Text that is read as a URI gives the same text back. -/
def Reprints (text : String) : Prop :=
  ∀ uri, Sip.Uri.ofText? text = some uri → uri.text .plain = text

/-- The traffic of one dialog. -/
structure Block where
  callId : Identifier
  tag : Identifier
  traffic : Traffic := []

namespace Block

/-- A request is the next one of a block in which there was some traffic before: it has the
Call-ID and the tag of the block and the next number, and it leads to the latest place that a 302
named, or home. -/
structure Continues (home : String) (block : Block) (before : Traffic) (request : Sip.Request) :
    Prop where
  callId : request.callId? = some block.callId
  sender : request.senderTag? = some block.tag
  cSeq : request.cSeq? = some (before.requests.length + 1)
  uri : Sip.Uri.ofText? (before.target home) = some request.uri
  text : Reprints (before.target home) → request.uri.text .plain = before.target home

/-- A block begins with a request, and each of its requests is the next one after the traffic
before it. -/
structure Lawful (home : String) (block : Block) : Prop where
  opens : ∀ first rest, block.traffic = first :: rest → ∃ purpose request,
    first = .sent purpose request
  continues : block.traffic.Throughout fun before signal => ∀ purpose request,
    signal = .sent purpose request → block.Continues home before request

end Block

end ImsClient.Registration
