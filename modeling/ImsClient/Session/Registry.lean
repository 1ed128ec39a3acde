import ImsClient.Session.Tracker
import ImsClient.Settings

/-!
# Registries of sessions

A registry holds the live sessions of one service, each under its key, and keeps
them within limits. A limit counts the sessions of several categories together.
Removing a session is left to a later time; by then another session may stand
under its key, and then nothing is removed.
-/

namespace ImsClient.Session

/-- The most sessions of some categories together; zero means any number. -/
structure Limit where
  categories : List Category
  max : Nat
deriving DecidableEq, Repr, Inhabited

namespace Limit

/-- Whether a limit speaks of any of some categories. -/
def covers (limit : Limit) (categories : List Category) : Bool :=
  categories.any limit.categories.contains

/-- How many of some sessions a limit counts. -/
def occupancy (limit : Limit) (sessions : List Member) : Nat :=
  sessions.countP fun member => limit.categories.contains member.kind.category

/-- Whether there is room for one session more. -/
def admits (limit : Limit) (sessions : List Member) : Bool :=
  limit.max = 0 || limit.occupancy sessions < limit.max

theorem covers_append (limit : Limit) (first second : List Category) :
    limit.covers (first ++ second) = (limit.covers first || limit.covers second) := by
  simp [covers]

def diagnostic (limit : Limit) : String :=
  Text.diagnosticRecord "CapacityLimit"
    [("categories", Text.diagnosticList (limit.categories.map Category.diagnostic)),
     ("max", toString limit.max)]

end Limit

structure Registry where
  name : String
  sessions : List Member := []
  limits : List Limit := []
deriving DecidableEq, Repr, Inhabited

namespace Registry

def addLimit (registry : Registry) (limit : Limit) : Registry :=
  { registry with limits := registry.limits ++ [limit] }

/-- The registry of the chats. -/
def forChat (settings : Settings) : Registry :=
  { name := "chat", limits := [⟨[.oneToOneChat, .groupChat], settings.maxChatSessions⟩] }

/-- The registry of the file transfers. -/
def forFileTransfer (settings : Settings) : Registry :=
  { name := "file_transfer",
    limits := [⟨[.fileTransfer, .fileUpload], settings.maxFileTransferSessions⟩] }

/-- The session under a key. -/
def get? (registry : Registry) (kind : Kind) : Option Member :=
  registry.sessions.find? (·.kind = kind)

/-- The session under a key, which must be there. -/
def get (registry : Registry) (kind : Kind) : Except Error Member :=
  match registry.get? kind with
  | some member => .ok member
  | none => .error (.sessionNotFound kind.text)

/-- The first limit on some categories that has no room left. -/
def fullLimit? (registry : Registry) (categories : List Category) : Option Limit :=
  registry.limits.find? fun limit =>
    limit.covers categories && !limit.admits registry.sessions

/-- Checks that there is room for one session more of some categories. -/
def assertAvailable (registry : Registry) (categories : List Category) : Except Error Unit :=
  match registry.fullLimit? categories with
  | some limit => .error (.capacityExceeded limit.categories limit.max)
  | none => .ok ()

/-- Whether there is room for one session more of some categories. -/
def isAvailable (registry : Registry) (categories : List Category) : Bool :=
  (registry.fullLimit? categories).isNone

/-- Registers a session under its key, which must be free. -/
def add (registry : Registry) (tracker : Tracker) (member : Member) :
    Except Error (Registry × Tracker) :=
  if (registry.get? member.kind).isSome then
    .error (.sessionAlreadyExists member.kind.text)
  else
    .ok ({ registry with sessions := registry.sessions ++ [member] }, tracker.track member)

/-- Registers a session if there is room for it. -/
def addIfAvailable (registry : Registry) (tracker : Tracker) (member : Member) :
    Except Error (Registry × Tracker) := do
  registry.assertAvailable [member.kind.category]
  registry.add tracker member

/-- Removes a session, unless another one stands under its key. -/
def remove (registry : Registry) (tracker : Tracker) (member : Member) : Registry × Tracker :=
  match registry.get? member.kind with
  | some current =>
    if current.id = member.id then
      ({ registry with sessions := registry.sessions.filter (·.kind ≠ member.kind) },
        tracker.untrack member)
    else (registry, tracker)
  | none => (registry, tracker)

/-- How many sessions of a category there are. -/
def count (registry : Registry) (category : Category) : Nat :=
  registry.sessions.countP (·.kind.category = category)

/-- The keys and ids of the sessions, by key and then by id. -/
def listing (registry : Registry) : List (String × String) :=
  (registry.sessions.map fun member => (member.kind.text, member.id.text .plain)).mergeSort
    fun a b => if a.1 = b.1 then a.2 ≤ b.2 else a.1 < b.1

def diagnostic (registry : Registry) : String :=
  Text.diagnosticRecord "SessionRegistry"
    [("name", Text.diagnostic registry.name),
     ("sessions", toString registry.sessions.length),
     ("limits", Text.diagnosticList (registry.limits.map Limit.diagnostic))]

end Registry

end ImsClient.Session
