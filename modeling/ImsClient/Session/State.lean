import ImsClient.Error

/-!
# The life of a session

A session is begun on one side, may be offered to the other, is accepted, starts
and ends. It ends once, in one of four ways.
-/

namespace ImsClient.Session

inductive State where
  /-- Created here; nothing was sent. -/
  | initiated
  /-- An invitation waits for the user. -/
  | invited
  /-- Accepted; the far end is to confirm. -/
  | accepting
  | started
  /-- Ended before it started. -/
  | aborted
  /-- Ended after it started. -/
  | terminated
  | rejected
  | failed
deriving DecidableEq, Repr, Inhabited

namespace State

def all : List State :=
  [initiated, invited, accepting, started, aborted, terminated, rejected, failed]

def text : State → String
  | initiated => "Initiated"
  | invited => "Invited"
  | accepting => "Accepting"
  | started => "Started"
  | aborted => "Aborted"
  | terminated => "Terminated"
  | rejected => "Rejected"
  | failed => "Failed"

def isTerminal : State → Bool
  | aborted | terminated | rejected | failed => true
  | _ => false

/-- The states that a session can go on to. -/
def next : State → List State
  | initiated => [invited, accepting, started, aborted, rejected, failed]
  | invited => [accepting, started, aborted, rejected, failed]
  | accepting => [started, aborted, failed]
  | started => [terminated, failed]
  | _ => []

def canBecome (state target : State) : Bool := state.next.contains target

/-- Nothing follows a terminal state. -/
theorem canBecome_of_isTerminal {state : State} (h : state.isTerminal = true) (target : State) :
    state.canBecome target = false := by
  cases state <;> simp_all [isTerminal, canBecome, next]

/-- Checks that a session can go on from one state to another. -/
def check (state target : State) : Except Error Unit :=
  if state.canBecome target then .ok ()
  else .error (.invalidTransition state.text target.text)

end State

end ImsClient.Session
