import ImsClient.Capability.Scan

/-!
# A store of contacts

Contacts with their snapshots, a clock, and a network by which contacts are
asked, all of which can be made to fail.
-/

namespace ImsClient.Simulation

open Capability (ContactId Snapshot Query)

structure Contacts where
  /-- The contacts in the order of their ids. -/
  entries : List (ContactId × Option Snapshot) := []
  unreadable : List ContactId := []
  unwritable : List ContactId := []
  /-- The contacts cannot be listed. -/
  unlistable : Bool := false
  unreachable : List ContactId := []
  /-- The time that the clock shows, in milliseconds. -/
  clock : Int := 0
deriving Repr, Inhabited

namespace Contacts

/-- Whether an id stands before another: ids are ordered as their bytes are. -/
def before (a b : ContactId) : Bool := a.toUTF8.toList ≤ b.toUTF8.toList

/-- The entries with one for a contact, in its place. -/
def insert (contact : ContactId) (snapshot : Option Snapshot) :
    List (ContactId × Option Snapshot) → List (ContactId × Option Snapshot)
  | [] => [(contact, snapshot)]
  | (other, found) :: rest =>
    if other = contact then (contact, snapshot) :: rest
    else if before contact other then (contact, snapshot) :: (other, found) :: rest
    else (other, found) :: insert contact snapshot rest

def list (contacts : Contacts) : Except Error (List ContactId) :=
  if contacts.unlistable then .error (.internal "store unavailable")
  else .ok (contacts.entries.map Prod.fst)

def read (contacts : Contacts) (contact : ContactId) : Except Error (Option Snapshot) :=
  if contacts.unreadable.contains contact then .error (.internal "unreadable")
  else .ok (contacts.entries.lookup contact).join

/-- Replaces the snapshot of a contact. -/
def write (contacts : Contacts) (contact : ContactId) (snapshot : Snapshot) :
    Except Error Contacts :=
  if contacts.unwritable.contains contact then .error (.internal "unwritable")
  else .ok { contacts with entries := insert contact (some snapshot) contacts.entries }

/-- Asks a contact. -/
def request (contacts : Contacts) (contact : ContactId) : Except Error Unit :=
  if contacts.unreachable.contains contact then .error (.transport "unreachable") else .ok ()

/-- The surroundings of a scan in a world that has a store of contacts and writes queries down. -/
def surroundings {World : Type} (store : World → Contacts)
    (note : Query → ContactId → World → World) : Capability.Surroundings World where
  now w := ((store w).clock, w)
  contacts w := ((store w).list, w)
  read contact w := ((store w).read contact, w)
  request query contact w := ((store w).request contact, note query contact w)

end Contacts

end ImsClient.Simulation
