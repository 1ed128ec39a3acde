import ImsClient.Logging

/-!
# Settings

Everything about a client that its owner can choose. Settings are checked as a
whole before a client is built of them.
-/

namespace ImsClient

/-- How the client proves who it is when it registers. -/
inductive Procedure.Scheme where
  /-- HTTP Digest with a user name and a password. -/
  | digest
  /-- The access network vouches for the subscriber; nothing is sent. -/
  | giba
deriving DecidableEq, Repr, Inhabited

namespace Procedure.Scheme

def label : Procedure.Scheme → String
  | digest => "digest"
  | giba => "giba"

def all : List Procedure.Scheme := [digest, giba]

end Procedure.Scheme

structure Settings where
  homeDomain : String := ""
  /-- The public identity of the user. -/
  publicUri : String := ""
  /-- The private identity of the user, which authenticates. -/
  privateId : Option String := none
  password : Option String := none
  /-- The id of this device among the user's devices. -/
  instanceId : Option String := none
  /-- The lifetime that a registration asks for, in seconds. -/
  registrationExpiry : Nat := 3600
  /-- How long a response or an ACK may take, in milliseconds. -/
  transactionTimeout : Nat := 30000
  featureTags : List String := []
  procedure : Procedure.Scheme := .giba
  /-- How many chats may be held at a time; any number if zero. -/
  maxChatSessions : Nat := 20
  /-- How many file transfers may be held at a time; any number if zero. -/
  maxFileTransferSessions : Nat := 10
  /-- How long the user may take to answer, in milliseconds. -/
  ringingPeriod : Nat := 120000
  /-- The age at which known capabilities are stale, in milliseconds. -/
  capabilityWindow : Int := 86400000
  /-- The time between two rounds of capability polling, in milliseconds; none if zero. -/
  pollingPeriod : Nat := 3600000
  logLevel : String := "info"
  logJson : Bool := false
deriving DecidableEq, Repr, Inhabited

namespace Settings

def transactionTime (settings : Settings) : Duration :=
  .ofMilliseconds settings.transactionTimeout

def ringingTime (settings : Settings) : Duration := .ofMilliseconds settings.ringingPeriod

def pollingTime (settings : Settings) : Duration := .ofMilliseconds settings.pollingPeriod

/-- Where a REGISTER is sent to. -/
def homeUri (settings : Settings) : String := "sip:" ++ settings.homeDomain

/-- The whole milliseconds of a duration in 64 bits. -/
def milliseconds (d : Duration) : Nat := d.wholeMilliseconds % 18_446_744_073_709_551_616

def withTransactionTime (settings : Settings) (d : Duration) : Settings :=
  { settings with transactionTimeout := milliseconds d }

def withRingingTime (settings : Settings) (d : Duration) : Settings :=
  { settings with ringingPeriod := milliseconds d }

def withPollingTime (settings : Settings) (d : Duration) : Settings :=
  { settings with pollingPeriod := milliseconds d }

/-- The settings with a capability window, in 64 bits of which one is the sign. -/
def withCapabilityWindow (settings : Settings) (d : Duration) : Settings :=
  { settings with capabilityWindow := Int.bmod d.wholeMilliseconds 18_446_744_073_709_551_616 }

def withCredentials (settings : Settings) (privateId password : String) : Settings :=
  { settings with privateId := some privateId, password := some password }

/-- The user name and password for HTTP Digest, if both are given. -/
def credentials? (settings : Settings) : Option (String × String) :=
  match settings.privateId, settings.password with
  | some privateId, some password => some (privateId, password)
  | _, _ => none

def missingCredentials : Error := .config "digest procedure requires private_id and password"

/-- Whether the settings are usable; of several faults the first one is told. -/
def validate (settings : Settings) : Except Error Unit := do
  if Text.isAllBlank settings.homeDomain then throw (.config "home_domain cannot be empty")
  if Text.isAllBlank settings.publicUri then throw (.config "public_uri cannot be empty")
  if settings.registrationExpiry = 0 then
    throw (.config "registration_expiry_secs must be positive")
  if settings.transactionTimeout = 0 then
    throw (.config "sip_transaction_timeout_ms must be positive")
  if settings.capabilityWindow < 0 then
    throw (.config "capability_expiry_window_ms cannot be negative")
  let _ ← LogLevel.ofText settings.logLevel
  if settings.procedure = .digest ∧ settings.credentials? = none then throw missingCredentials

/-- How a client with these settings logs. -/
def logging (settings : Settings) : Except Error Logging := do
  return { level := ← LogLevel.ofText settings.logLevel, json := settings.logJson }

end Settings

end ImsClient
