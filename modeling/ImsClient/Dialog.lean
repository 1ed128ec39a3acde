import ImsClient.Identifier

/-!
# Dialogs

The state of one dialog as this side sees it: its Call-ID, the number of the last
request, whom it is with and by which way, the session descriptions agreed on,
and how far its session has come.
-/

namespace ImsClient

structure Dialog where
  callId : Identifier
  cSeq : Nat := 1
  target : String
  localParty : String
  remoteParty : String
  localTag : Identifier
  remoteTag : Option Identifier := none
  route : List String := []
  localContent : Option String := none
  remoteContent : Option String := none
  established : Bool := false
  cancelled : Bool := false
deriving DecidableEq, Repr, Inhabited

namespace Dialog

/-- A new dialog, with a local tag of its own. -/
def create (callId : Identifier) (target localParty remoteParty : String) (route : List String)
    (supply : Supply) : Dialog × Supply :=
  let (localTag, supply) := supply.draw .tag
  ({ callId, target, localParty, remoteParty, localTag, route }, supply)

/-- The dialog at its next request. -/
def advance (dialog : Dialog) : Dialog := { dialog with cSeq := dialog.cSeq + 1 }

@[simp] theorem advance_cSeq (dialog : Dialog) : dialog.advance.cSeq = dialog.cSeq + 1 := rfl

end Dialog

end ImsClient
