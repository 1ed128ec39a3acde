import ImsClient.Error
import ImsClient.Sip.Message

/-!
# Scripted replies

A scripted transport answers each request that is sent with the next reply of its
script, and with a plain 200 when the script is over.
-/

namespace ImsClient.Simulation

/-- What a reply brings. -/
inductive Content where
  /-- A response with a status, a phrase, headers and a body, without those headers of the request
  that are named in a list. -/
  | response (status : Nat) (phrase : Option String) (headers : List Sip.Header)
      (body : Option Sip.Body) (omitted : List String)
  | failure (message : String)
  | silence
deriving Repr, Inhabited

structure ScriptedReply where
  /-- The milliseconds that pass before the reply. -/
  delay : Nat := 0
  content : Content
deriving Repr, Inhabited

namespace ScriptedReply

/-- The reply of a script that is over. -/
def ok : ScriptedReply := { content := .response 200 none [] none [] }

/-- The headers of a request that its response repeats. -/
def isRepeated : Sip.Header → Bool
  | .via _ | .sender _ | .recipient _ | .callId _ | .cSeq _ _ => true
  | _ => false

/-- Whether two headers are of one kind: both typed, or both text under a name. -/
def sameKind (a b : Sip.Header) : Bool := isRepeated a == isRepeated b && a.name == b.name

/-- The response of a reply to a request: the headers it repeats, less those that are omitted or
given anew, then its own headers, then its body. -/
def respond (request : Sip.Request) (status : Nat) (phrase : Option String)
    (headers : List Sip.Header) (body : Option Sip.Body) (omitted : List String) : Sip.Response :=
  let repeated := request.headers.filter fun header =>
    isRepeated header && !headers.any (sameKind header) && !omitted.contains header.name
  let response : Sip.Response := { status, phrase, headers := repeated ++ headers }
  match body with
  | some body => response.withBody body
  | none => response

/-- The outcome of a reply: a response, a transport error, or nothing ever. -/
def outcome (reply : ScriptedReply) (request : Sip.Request) :
    Option (Except Error Sip.Response) :=
  match reply.content with
  | .response status phrase headers body omitted =>
    some (.ok (respond request status phrase headers body omitted))
  | .failure message => some (.error (.transport message))
  | .silence => none

/-- What a sender gets who waits for a time: the outcome and when it is there, or nothing at the
end of that time. A reply that comes exactly then is in time. -/
def arrival (reply : ScriptedReply) (request : Sip.Request) (patience : Nat) :
    Nat × Option (Except Error Sip.Response) :=
  match reply.outcome request with
  | some outcome => if reply.delay ≤ patience then (reply.delay, some outcome) else (patience, none)
  | none => (patience, none)

/-- A reply that comes later than its sender waits is not there. -/
theorem arrival_late (reply : ScriptedReply) (request : Sip.Request) {patience : Nat}
    (hlate : patience < reply.delay) : (reply.arrival request patience).2 = none := by
  unfold arrival
  split
  · rw [if_neg (Nat.not_le.mpr hlate)]
  · rfl

end ScriptedReply

/-- The next reply of a script, and the rest of it. -/
def nextReply : List ScriptedReply → ScriptedReply × List ScriptedReply
  | [] => (.ok, [])
  | reply :: rest => (reply, rest)

end ImsClient.Simulation
