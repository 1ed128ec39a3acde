import ImsClient.Session.Category
import ImsClient.Text.Literal
import ImsClient.Time.Duration

/-!
# Errors

Everything that can go wrong, with the text shown for it. Failures of the
registration and of a session carry a code, so that a listener can react without
reading the text.
-/

namespace ImsClient

/-- Why a registration failed. -/
inductive RegistrationFault where
  /-- No response, a request that was not sent, or a status that nothing is known about. -/
  | registrationFailed
  | tooMany401
  | tooMany4xx5xx6xx
  /-- A response that cannot be acted on. -/
  | unexpectedResponse
  /-- The network asked to come back later. -/
  | retryAfter
deriving DecidableEq, Repr, Inhabited

namespace RegistrationFault

def code : RegistrationFault → Nat
  | registrationFailed => 1
  | tooMany401 => 2
  | tooMany4xx5xx6xx => 3
  | unexpectedResponse => 4
  | retryAfter => 5

def name : RegistrationFault → String
  | registrationFailed => "REGISTRATION_FAILED"
  | tooMany401 => "TOO_MANY_401"
  | tooMany4xx5xx6xx => "TOO_MANY_4XX_5XX_6XX"
  | unexpectedResponse => "UNEXPECTED_RESPONSE"
  | retryAfter => "RETRY_AFTER"

/-- The fault as it is shown: its name, then its code. -/
def text (fault : RegistrationFault) : String :=
  fault.name ++ "(" ++ toString fault.code ++ ")"

end RegistrationFault

/-- What went wrong on a session. -/
inductive SessionFault where
  | unexpectedException
  | sessionInitiationFailed
  | sessionInitiationDeclined
  | sessionInitiationTimeout
  /-- The far end never acknowledged our 200. -/
  | noAck
  | proxyAuthenticationFailed
  | mediaRenegotiationFailed
deriving DecidableEq, Repr, Inhabited

namespace SessionFault

def all : List SessionFault :=
  [unexpectedException, sessionInitiationFailed, sessionInitiationDeclined,
    sessionInitiationTimeout, noAck, proxyAuthenticationFailed, mediaRenegotiationFailed]

def code : SessionFault → Nat
  | unexpectedException => 100
  | sessionInitiationFailed => 101
  | sessionInitiationDeclined => 102
  | sessionInitiationTimeout => 103
  | noAck => 104
  | proxyAuthenticationFailed => 105
  | mediaRenegotiationFailed => 106

def name : SessionFault → String
  | unexpectedException => "UnexpectedException"
  | sessionInitiationFailed => "SessionInitiationFailed"
  | sessionInitiationDeclined => "SessionInitiationDeclined"
  | sessionInitiationTimeout => "SessionInitiationTimeout"
  | noAck => "NoAck"
  | proxyAuthenticationFailed => "ProxyAuthenticationFailed"
  | mediaRenegotiationFailed => "MediaRenegotiationFailed"

/-- The fault as it is shown: its name, then its code. -/
def text (fault : SessionFault) : String := fault.name ++ "(" ++ toString fault.code ++ ")"

end SessionFault

inductive Error where
  | registration (fault : RegistrationFault) (message : String)
  | session (fault : SessionFault) (message : String)
  /-- A limit on the sessions of some categories together is reached. -/
  | capacityExceeded (categories : List Session.Category) (max : Nat)
  | sessionNotFound (key : String)
  | sessionAlreadyExists (key : String)
  | invalidTransition (source target : String)
  | config (message : String)
  | transport (message : String)
  | timeout (period : Duration)
  | protocol (message : String)
  | internal (message : String)
deriving DecidableEq, Repr, Inhabited

namespace Error

/-- The text shown for an error. -/
def message : Error → String
  | registration fault message => "Registration error " ++ fault.text ++ ": " ++ message
  | session fault message => "Session error " ++ fault.text ++ ": " ++ message
  | capacityExceeded categories max =>
    "Session limit reached for " ++
      Text.diagnosticList (categories.map Session.Category.diagnostic) ++
      " (max " ++ toString max ++ ")"
  | sessionNotFound key => "Session not found: " ++ key
  | sessionAlreadyExists key => "Session already exists for key " ++ key
  | invalidTransition source target =>
    "Invalid state transition from " ++ source ++ " to " ++ target
  | config message => "Configuration error: " ++ message
  | transport message => "Transport error: " ++ message
  | timeout period => "No response received within " ++ period.describe
  | protocol message => "Protocol error: " ++ message
  | internal message => "Internal error: " ++ message

/-- The fault of a failed registration. -/
def registrationFault? : Error → Option RegistrationFault
  | registration fault _ => some fault
  | _ => none

/-- The fault of a session. -/
def sessionFault? : Error → Option SessionFault
  | session fault _ => some fault
  | _ => none

/-- Whether a session was refused for want of room. -/
def isCapacityExceeded : Error → Bool
  | capacityExceeded _ _ => true
  | _ => false

end Error

end ImsClient
