import ImsClient.Proofs.Run
import ImsClient.Session.Registry
import Mathlib.Data.List.Nodup
import Mathlib.Logic.Function.Basic

/-!
# Registries that share a tracker

Any number of registries use one tracker. A session is offered to one of them, and is
taken if its key is free there and, where that is checked, if there is room for it; and
it may be removed at any later time, be it held then or not.
-/

namespace ImsClient.Session

/-! ### What one registry does -/

namespace Registry

variable {registry after : Registry} {tracker tracker' : Tracker} {member : Member}

/-- There is no session under a key exactly if no session has that key. -/
theorem get?_eq_none_iff (registry : Registry) (kind : Kind) :
    registry.get? kind = none ↔ kind ∉ registry.sessions.map Member.kind := by
  simp [get?]

/-- A session that is added was under no key before, and now stands last. -/
theorem add_eq_ok_iff :
    registry.add tracker member = .ok (after, tracker') ↔
      registry.get? member.kind = none ∧
        after = { registry with sessions := registry.sessions ++ [member] } ∧
        tracker' = tracker.track member := by
  unfold add
  cases registry.get? member.kind with
  | some other => simp
  | none => simp [eq_comm]

/-- With room for it or not, a session that is added is added in the same way. -/
theorem add_of_addIfAvailable
    (hadd : registry.addIfAvailable tracker member = .ok (after, tracker')) :
    registry.add tracker member = .ok (after, tracker') := by
  unfold addIfAvailable at hadd
  cases hroom : registry.assertAvailable [member.kind.category] with
  | error e =>
    rw [hroom] at hadd
    cases hadd
  | ok u =>
    rw [hroom] at hadd
    exact hadd

/-- Checked or not, a session that is taken had a key that was free, and now stands last. -/
theorem taken_of_ok {checked : Bool}
    (hadded : (if checked then registry.addIfAvailable tracker member
      else registry.add tracker member) = .ok (after, tracker')) :
    registry.get? member.kind = none ∧
      after = { registry with sessions := registry.sessions ++ [member] } ∧
      tracker' = tracker.track member := by
  refine add_eq_ok_iff.mp ?_
  split at hadded
  · exact add_of_addIfAvailable hadded
  · exact hadded

/-- A removal takes out the session under its key if that has its id, and does nothing else. -/
theorem remove_cases (registry : Registry) (tracker : Tracker) (member : Member) :
    (∃ current, registry.get? member.kind = some current ∧ current.id = member.id ∧
      registry.remove tracker member =
        ({ registry with sessions := registry.sessions.filter (·.kind ≠ member.kind) },
          tracker.untrack member)) ∨
    ((∀ current, registry.get? member.kind = some current → current.id ≠ member.id) ∧
      registry.remove tracker member = (registry, tracker)) := by
  unfold remove
  cases hget : registry.get? member.kind with
  | none => exact .inr ⟨by simp, rfl⟩
  | some current =>
    by_cases hid : current.id = member.id
    · exact .inl ⟨current, rfl, hid, by simp only [hid, if_true]⟩
    · refine .inr ⟨?_, by simp only [hid, if_false]⟩
      rintro _ ⟨⟩
      exact hid

/-- Where all keys are distinct, the session under a key is the one that has it. -/
theorem get?_eq_some_iff (hkinds : (registry.sessions.map Member.kind).Nodup) {kind : Kind} :
    registry.get? kind = some member ↔ member ∈ registry.sessions ∧ member.kind = kind := by
  constructor
  · intro hget
    exact ⟨List.mem_of_find?_eq_some hget, by simpa using List.find?_some hget⟩
  · rintro ⟨hmember, rfl⟩
    cases hget : registry.get? member.kind with
    | none =>
      exact absurd (List.mem_map_of_mem hmember) ((get?_eq_none_iff _ _).mp hget)
    | some other =>
      have hother : other ∈ registry.sessions := List.mem_of_find?_eq_some hget
      have hkind : other.kind = member.kind := by simpa using List.find?_some hget
      rw [List.inj_on_of_nodup_map hkinds hother hmember hkind]

end Registry

/-! ### Several registries -/

/-- Any number of registries, each at a place of its own, and the tracker that they share. -/
@[ext]
structure Registries (ι : Type) where
  registry : ι → Registry
  tracker : Tracker := {}

namespace Registries

/-- What can happen to registries that share a tracker. -/
inductive Event (ι : Type) where
  /-- A session is offered to the registry at a place; if checked, it is taken only if there is room
  for it. -/
  | offered (place : ι) (checked : Bool) (member : Member)
  /-- The removal of a session from the registry at a place is carried out. -/
  | removed (place : ι) (member : Member)

/-- The session that an event is about. -/
def Event.member {ι : Type} : Event ι → Member
  | offered _ _ member | removed _ member => member

variable {ι : Type} {r b : Registries ι} {place other : ι} {member : Member}

/-- One of the registries holds a session. -/
def Holds (r : Registries ι) (member : Member) : Prop :=
  ∃ place, member ∈ (r.registry place).sessions

variable [DecidableEq ι]

/-- The registries with another one at a place, and another tracker. -/
def update (r : Registries ι) (place : ι) (registry : Registry) (tracker : Tracker) :
    Registries ι where
  registry := Function.update r.registry place registry
  tracker := tracker

/-- Offers a session to the registry at a place. -/
def offer (r : Registries ι) (place : ι) (checked : Bool) (member : Member) :
    Except Error (Registries ι) :=
  let added :=
    if checked then (r.registry place).addIfAvailable r.tracker member
    else (r.registry place).add r.tracker member
  added.map fun (registry, tracker) => r.update place registry tracker

/-- Carries out the removal of a session from the registry at a place. -/
def remove (r : Registries ι) (removal : ι × Member) : Registries ι :=
  let (registry, tracker) := (r.registry removal.1).remove r.tracker removal.2
  r.update removal.1 registry tracker

/-- What an event does, and the error that whoever offered a session is told of. -/
def step (r : Registries ι) : Event ι → Registries ι × Option Error
  | .offered place checked member =>
    match r.offer place checked member with
    | .ok r => (r, none)
    | .error error => (r, some error)
  | .removed place member => (r.remove (place, member), none)

/-- The session that is taken by an event. -/
def takes (r : Registries ι) (event : Event ι) : List Member :=
  match event, (r.step event).2 with
  | .offered _ _ member, none => [member]
  | _, _ => []

/-- What an event makes of the registries. -/
def next (r : Registries ι) (event : Event ι) : Registries ι := (r.step event).1

/-- The registries after a run. -/
def after (r : Registries ι) (history : List (Event ι)) : Registries ι := Run.after next r history

/-- The sessions that are taken along a run, in order. -/
def taken (r : Registries ι) (history : List (Event ι)) : List Member :=
  Run.along next takes r history

/-- One more event takes the registries one step further. -/
theorem after_concat (r : Registries ι) (history : List (Event ι)) (event : Event ι) :
    r.after (history ++ [event]) = ((r.after history).step event).1 :=
  Run.after_concat r history event

/-- A session that is taken by one more event comes last. -/
theorem taken_concat (r : Registries ι) (history : List (Event ι)) (event : Event ι) :
    r.taken (history ++ [event]) = r.taken history ++ (r.after history).takes event :=
  Run.along_concat r history event

@[simp] theorem update_tracker (r : Registries ι) (place : ι) (registry : Registry)
    (tracker : Tracker) : (r.update place registry tracker).tracker = tracker := rfl

/-- Only the registry at the place is another one. -/
theorem registry_update (r : Registries ι) (place other : ι) (registry : Registry)
    (tracker : Tracker) :
    (r.update place registry tracker).registry other =
      if other = place then registry else r.registry other := by
  simp [update, Function.update_apply]

@[simp] theorem update_self (r : Registries ι) (place : ι) :
    r.update place (r.registry place) r.tracker = r :=
  Registries.ext (Function.update_eq_self place r.registry) rfl

/-- A removal takes out the session under the key if that has its id, and does nothing else. -/
theorem remove_cases (r : Registries ι) (place : ι) (member : Member) :
    (∃ current, (r.registry place).get? member.kind = some current ∧ current.id = member.id ∧
      r.remove (place, member) =
        r.update place
          { r.registry place with
            sessions := (r.registry place).sessions.filter (·.kind ≠ member.kind) }
          (r.tracker.untrack member)) ∨
    ((∀ current, (r.registry place).get? member.kind = some current → current.id ≠ member.id) ∧
      r.remove (place, member) = r) := by
  unfold remove
  rcases (r.registry place).remove_cases r.tracker member with
    ⟨current, hget, hid, heq⟩ | ⟨hother, heq⟩
  · exact .inl ⟨current, hget, hid, by rw [heq]⟩
  · exact .inr ⟨hother, by rw [heq]; exact r.update_self place⟩

/-- The registries with one session more at a place. -/
def withTaken (r : Registries ι) (place : ι) (member : Member) : Registries ι :=
  r.update place
    { r.registry place with sessions := (r.registry place).sessions ++ [member] }
    (r.tracker.track member)

/-- A session that is offered and taken had a key that was free, and now stands last. -/
theorem offer_ok {checked : Bool} (hoffer : r.offer place checked member = .ok b) :
    (r.registry place).get? member.kind = none ∧ b = r.withTaken place member := by
  unfold offer at hoffer
  dsimp only at hoffer
  generalize hadded : (if checked = true then _ else _) = added at hoffer
  cases added with
  | error e => cases hoffer
  | ok added =>
    obtain ⟨registry, tracker⟩ := added
    cases hoffer
    obtain ⟨hfree, rfl, rfl⟩ := Registry.taken_of_ok hadded
    exact ⟨hfree, rfl⟩

/-- The sessions with one more at a place. -/
theorem mem_withTaken {session : Member} :
    session ∈ ((r.withTaken place member).registry other).sessions ↔
      session ∈ (r.registry other).sessions ∨ other = place ∧ session = member := by
  by_cases hother : other = place
  · subst hother
    simp [withTaken, update]
  · simp [withTaken, update, hother]

/-- The keys in every registry stay distinct if that of the session was free. -/
theorem nodup_kinds_withTaken
    (hkinds : ∀ place, ((r.registry place).sessions.map Member.kind).Nodup)
    (hfree : (r.registry place).get? member.kind = none) (other : ι) :
    (((r.withTaken place member).registry other).sessions.map Member.kind).Nodup := by
  rw [withTaken, registry_update]
  split
  · have hkind := (Registry.get?_eq_none_iff _ _).mp hfree
    have hperm := (List.perm_append_singleton member (r.registry place).sessions).map Member.kind
    exact hperm.nodup_iff.mpr (List.nodup_cons.mpr ⟨hkind, hkinds place⟩)
  · exact hkinds other

/-- What is held is what was held, and the session that was taken. -/
theorem holds_withTaken {session : Member} :
    (r.withTaken place member).Holds session ↔ r.Holds session ∨ session = member := by
  simp only [Holds, mem_withTaken, exists_or, exists_eq_left]

end Registries

end ImsClient.Session
