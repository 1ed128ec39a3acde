import ImsClient.Identifier
import ImsClient.Session.Category

/-!
# Tracking sessions

Routes what arrives to live sessions: by Call-ID to a session that has a dialog,
and by session id to one that has none.
-/

namespace ImsClient.Session

/-- A live session, as its registry and the tracker know it. -/
structure Member where
  id : Identifier
  kind : Kind
  /-- The Call-ID of the dialog of the session, if it has one. -/
  callId : Option Identifier := none
deriving DecidableEq, Repr, Inhabited

structure Tracker where
  dialogs : List (Identifier × Member) := []
  dialogless : List (Identifier × Member) := []
deriving DecidableEq, Repr, Inhabited

namespace Tracker

/-- The entries with one under a key, in place of any entry that was there. -/
def put (key : Identifier) (member : Member) (entries : List (Identifier × Member)) :
    List (Identifier × Member) :=
  entries.filter (·.1 ≠ key) ++ [(key, member)]

theorem lookup_put_self (key : Identifier) (member : Member)
    (entries : List (Identifier × Member)) : (put key member entries).lookup key = some member := by
  unfold put
  induction entries with
  | nil => simp
  | cons entry rest ih =>
    obtain ⟨other, found⟩ := entry
    by_cases h : other = key
    · simpa [h] using ih
    · have hne : (key == other) = false := by simpa using fun heq => h heq.symm
      simpa [h, List.lookup_cons, hne] using ih

/-- Takes note of a session. -/
def track (tracker : Tracker) (member : Member) : Tracker :=
  match member.callId with
  | some callId => { tracker with dialogs := put callId member tracker.dialogs }
  | none => { tracker with dialogless := put member.id member tracker.dialogless }

/-- Forgets a session. An entry that another session has taken over stays. -/
def untrack (tracker : Tracker) (member : Member) : Tracker :=
  match member.callId with
  | some callId =>
    { tracker with
      dialogs := tracker.dialogs.filter fun (key, found) => key ≠ callId ∨ found.id ≠ member.id }
  | none => { tracker with dialogless := tracker.dialogless.filter fun (key, _) => key ≠ member.id }

def byCallId? (tracker : Tracker) (callId : Identifier) : Option Member :=
  tracker.dialogs.lookup callId

def bySessionId? (tracker : Tracker) (id : Identifier) : Option Member :=
  tracker.dialogless.lookup id

end Tracker

end ImsClient.Session
