/-!
# Registration states
-/

namespace ImsClient.Registration

inductive State where
  | unregistered
  | registering
  | registered
  | unregistering
  | failed
deriving DecidableEq, Repr, Inhabited

namespace State

def all : List State := [unregistered, registering, registered, unregistering, failed]

def text : State → String
  | unregistered => "Unregistered"
  | registering => "Registering"
  | registered => "Registered"
  | unregistering => "Unregistering"
  | failed => "Failed"

/-- A state in which a request of the registration is under way. -/
def isBusy : State → Bool
  | registering | unregistering => true
  | _ => false

end State

end ImsClient.Registration
