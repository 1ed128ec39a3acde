import ImsClient.Proofs.Session.Switchboard

/-!
# Room for sessions

Limits may overlap, and a session counts under every limit that lists its category.
These are exactly the limits that are looked at before the session is taken. So a
registry that takes sessions only if there is room for them stays within all of its
limits, at whatever times sessions are removed.
-/

namespace ImsClient.Session

namespace Limit

/-- A limit speaks of one category exactly if it lists it. -/
theorem covers_singleton (limit : Limit) (category : Category) :
    limit.covers [category] = limit.categories.contains category := by
  simp [covers]

/-- One more session counts under a limit that lists its category, and under no other. -/
theorem occupancy_concat (limit : Limit) (sessions : List Member) (member : Member) :
    limit.occupancy (sessions ++ [member]) =
      limit.occupancy sessions + if limit.covers [member.kind.category] then 1 else 0 := by
  simp only [occupancy, List.countP_append, List.countP_singleton, covers_singleton]

/-- A limit of zero always has room. -/
theorem admits_of_max_eq_zero {limit : Limit} (hmax : limit.max = 0) (sessions : List Member) :
    limit.admits sessions = true := by
  simp [admits, hmax]

/-- A limit that is positive has room exactly below it. -/
theorem admits_iff_lt {limit : Limit} (hmax : 0 < limit.max) (sessions : List Member) :
    limit.admits sessions = true ↔ limit.occupancy sessions < limit.max := by
  simp [admits, Nat.ne_of_gt hmax]

end Limit

namespace Registry

/-- There is room for some categories exactly if every limit on any of them has room. -/
theorem isAvailable_iff (registry : Registry) (categories : List Category) :
    registry.isAvailable categories = true ↔ ∀ limit ∈ registry.limits,
      limit.covers categories = true → limit.admits registry.sessions = true := by
  simp [isAvailable, fullLimit?]

/-- There is room for the categories of two lists exactly if there is room for those of each. -/
theorem isAvailable_append (registry : Registry) (first second : List Category) :
    registry.isAvailable (first ++ second) =
      (registry.isAvailable first && registry.isAvailable second) := by
  rw [Bool.eq_iff_iff, Bool.and_eq_true]
  simp only [isAvailable_iff, Limit.covers_append, Bool.or_eq_true]
  constructor
  · intro hboth
    exact ⟨fun limit hlimit hcovers => hboth limit hlimit (.inl hcovers),
      fun limit hlimit hcovers => hboth limit hlimit (.inr hcovers)⟩
  · rintro ⟨hfirst, hsecond⟩ limit hlimit (hcovers | hcovers)
    · exact hfirst limit hlimit hcovers
    · exact hsecond limit hlimit hcovers

/-- A limit of zero is never the one that has no room left. -/
theorem fullLimit?_filter_positive (registry : Registry) (categories : List Category) :
    { registry with limits := registry.limits.filter fun limit => 0 < limit.max }.fullLimit?
      categories = registry.fullLimit? categories := by
  unfold fullLimit?
  dsimp only
  rw [List.find?_filter]
  congr 1
  funext limit
  rcases Nat.eq_zero_or_pos limit.max with hzero | hpos
  · simp [Limit.admits_of_max_eq_zero hzero, hzero]
  · simp [hpos]

/-- A session is taken if there is room for its category, and otherwise turned down by the first
limit that has none. -/
theorem addIfAvailable_eq (registry : Registry) (tracker : Tracker) (member : Member) :
    registry.addIfAvailable tracker member =
      match registry.fullLimit? [member.kind.category] with
      | some limit => .error (.capacityExceeded limit.categories limit.max)
      | none => registry.add tracker member := by
  unfold addIfAvailable assertAvailable
  cases registry.fullLimit? [member.kind.category] <;> rfl

/-- Without a check, no session is turned down for lack of room. -/
theorem add_ne_capacityExceeded (registry : Registry) (tracker : Tracker) (member : Member)
    (categories : List Category) (max : Nat) :
    registry.add tracker member ≠ .error (.capacityExceeded categories max) := by
  unfold add
  split <;> simp

/-- A session is turned down for lack of room exactly if there is no room for its category. -/
theorem addIfAvailable_eq_capacityExceeded_iff (registry : Registry) (tracker : Tracker)
    (member : Member) :
    (∃ categories max,
        registry.addIfAvailable tracker member = .error (.capacityExceeded categories max)) ↔
      registry.isAvailable [member.kind.category] = false := by
  rw [addIfAvailable_eq, isAvailable]
  cases registry.fullLimit? [member.kind.category] with
  | some limit => simp
  | none => simp [add_ne_capacityExceeded]

/-- With room for its category, a session is added as without a check. -/
theorem addIfAvailable_of_isAvailable {registry : Registry} {member : Member} (tracker : Tracker)
    (hroom : registry.isAvailable [member.kind.category] = true) :
    registry.addIfAvailable tracker member = registry.add tracker member := by
  rw [isAvailable, Option.isNone_iff_eq_none] at hroom
  rw [addIfAvailable_eq, hroom]

/-- No positive limit of a registry counts more sessions than it allows. -/
def WithinLimits (registry : Registry) : Prop :=
  ∀ limit ∈ registry.limits, 0 < limit.max → limit.occupancy registry.sessions ≤ limit.max

/-- A registry that takes a session only if there is room for it stays within its limits. -/
theorem WithinLimits.addIfAvailable {registry after : Registry} {tracker tracker' : Tracker}
    {member : Member} (hwithin : registry.WithinLimits)
    (hadd : registry.addIfAvailable tracker member = .ok (after, tracker')) :
    after.WithinLimits ∧ after.limits = registry.limits := by
  have hroom : registry.isAvailable [member.kind.category] = true := by
    by_contra hnone
    have hfull := (addIfAvailable_eq_capacityExceeded_iff registry tracker member).mpr
      (Bool.not_eq_true _ ▸ hnone)
    simp [hadd] at hfull
  obtain ⟨_, rfl, _⟩ := add_eq_ok_iff.mp (add_of_addIfAvailable hadd)
  refine ⟨fun limit hlimit hmax => ?_, rfl⟩
  have hbefore := hwithin limit hlimit hmax
  dsimp only
  rw [Limit.occupancy_concat]
  -- Only under the limits that the check looked at does the session count.
  split
  · next hcovers =>
    have hadmits := (registry.isAvailable_iff _).mp hroom limit hlimit hcovers
    exact (Limit.admits_iff_lt hmax _).mp hadmits
  · exact hbefore

/-- A removal leaves a registry within its limits. -/
theorem WithinLimits.remove {registry : Registry} (hwithin : registry.WithinLimits)
    (tracker : Tracker) (member : Member) :
    (registry.remove tracker member).1.WithinLimits ∧
      (registry.remove tracker member).1.limits = registry.limits := by
  rcases registry.remove_cases tracker member with ⟨current, _, _, heq⟩ | ⟨_, heq⟩
  · rw [heq]
    refine ⟨fun limit hlimit hmax => ?_, rfl⟩
    exact Nat.le_trans List.filter_sublist.countP_le (hwithin limit hlimit hmax)
  · rw [heq]
    exact ⟨hwithin, rfl⟩

end Registry

/-- An event that offers no session to a registry without a check leaves it within its limits. -/
theorem Registries.withinLimits_step {ι : Type} [DecidableEq ι] {r : Registries ι} {place : ι}
    {event : Event ι} (hwithin : (r.registry place).WithinLimits)
    (hchecked : ∀ member, event ≠ .offered place false member) :
    ((r.step event).1.registry place).WithinLimits ∧
      ((r.step event).1.registry place).limits = (r.registry place).limits := by
  cases event with
  | offered other checked member =>
    unfold step
    dsimp only
    cases hoffer : r.offer other checked member with
    | error e => exact ⟨hwithin, rfl⟩
    | ok after =>
      dsimp only
      by_cases hplace : place = other
      · subst hplace
        cases checked with
        | false => exact absurd rfl (hchecked member)
        | true =>
          simp only [offer, if_true] at hoffer
          cases hadd : (r.registry place).addIfAvailable r.tracker member with
          | error e =>
            rw [hadd] at hoffer
            cases hoffer
          | ok added =>
            rw [hadd] at hoffer
            cases hoffer
            rw [registry_update, if_pos rfl]
            exact hwithin.addIfAvailable hadd
      · obtain ⟨_, rfl⟩ := offer_ok hoffer
        rw [withTaken, registry_update, if_neg hplace]
        exact ⟨hwithin, rfl⟩
  | removed other member =>
    simp only [step, remove, registry_update]
    split
    · next hplace =>
      subst hplace
      exact hwithin.remove r.tracker member
    · exact ⟨hwithin, rfl⟩

namespace Switchboard

/-- Along a run, a service takes sessions only if there is room for them. -/
def Checked (keeper : Keeper) (history : History) : Prop :=
  ∀ member, .offered keeper false member ∉ history

/-- An event that offers no session to a service without a check leaves it within its limits. -/
theorem withinLimits_step {b : Switchboard} {keeper : Keeper} {event : Event}
    (hwithin : (b.registry keeper).WithinLimits)
    (hchecked : ∀ member, event ≠ .offered keeper false member) :
    ((b.step event).1.registry keeper).WithinLimits ∧
      ((b.step event).1.registry keeper).limits = (b.registry keeper).limits := by
  cases event with
  | dismissed other member => exact ⟨hwithin, rfl⟩
  | offered other checked member =>
    refine Registries.withinLimits_step hwithin fun session hevent => ?_
    cases hevent
    exact hchecked member rfl
  | carriedOut place =>
    unfold step
    dsimp only
    cases b.removals[place]? with
    | none => exact ⟨hwithin, rfl⟩
    | some removal => exact Registries.withinLimits_step hwithin nofun

/-- A service that starts with no session and takes sessions only if there is room for them is
within its limits after every run, and they are those that it started with. -/
theorem withinLimits_after {b : Switchboard} {keeper : Keeper} {history : History}
    (hempty : (b.registry keeper).sessions = []) (hchecked : Checked keeper history) :
    ((b.after history).registry keeper).WithinLimits ∧
      ((b.after history).registry keeper).limits = (b.registry keeper).limits := by
  induction history using List.reverseRecOn with
  | nil => exact ⟨fun limit _ _ => by simp [Limit.occupancy, hempty], rfl⟩
  | append_singleton history event ih =>
    obtain ⟨hwithin, hlimits⟩ := ih fun member h => hchecked member (List.mem_append_left _ h)
    rw [after_concat]
    obtain ⟨hwithin', hlimits'⟩ := withinLimits_step hwithin fun member h =>
      hchecked member (List.mem_append_right _ (h ▸ List.mem_cons_self))
    exact ⟨hwithin', hlimits'.trans hlimits⟩

/-- **Capacity.** A service starts with no session, has any limits, and in a run takes sessions only
if there is room for them, while removals are carried out at any times: then no positive limit ever
counts more sessions than it allows. Of any registry at any time: limits of zero refuse nothing, so
that without them it answers the same; a session is turned down for lack of room exactly if there is
no room for its category, and is added as without a check otherwise; and there is room for the
categories of two lists exactly if there is room for those of each. -/
theorem capacity_safe {b : Switchboard} {keeper : Keeper} {history : History}
    (hempty : (b.registry keeper).sessions = []) (hchecked : Checked keeper history) :
    (∀ limit ∈ (b.registry keeper).limits, 0 < limit.max →
      ((b.after history).registry keeper).sessions.countP
        (fun member => member.kind.category ∈ limit.categories) ≤ limit.max) ∧
    (∀ (registry : Registry) (categories : List Category),
      { registry with limits := registry.limits.filter fun limit => 0 < limit.max }.assertAvailable
        categories = registry.assertAvailable categories) ∧
    (∀ (registry : Registry) (tracker : Tracker) (member : Member),
      ((∃ categories max,
          registry.addIfAvailable tracker member = .error (.capacityExceeded categories max)) ↔
        registry.isAvailable [member.kind.category] = false) ∧
      (registry.isAvailable [member.kind.category] = true →
        registry.addIfAvailable tracker member = registry.add tracker member)) ∧
    ∀ (registry : Registry) (first second : List Category),
      registry.isAvailable (first ++ second) =
        (registry.isAvailable first && registry.isAvailable second) := by
  obtain ⟨hwithin, hlimits⟩ := withinLimits_after hempty hchecked
  refine ⟨fun limit hlimit hmax => ?_, fun registry categories => ?_,
    fun registry tracker member => ?_, Registry.isAvailable_append⟩
  · have hcount := hwithin limit (hlimits ▸ hlimit) hmax
    simpa only [Limit.occupancy, List.contains_eq_mem] using hcount
  · unfold Registry.assertAvailable
    rw [Registry.fullLimit?_filter_positive]
  · exact ⟨registry.addIfAvailable_eq_capacityExceeded_iff tracker member,
      Registry.addIfAvailable_of_isAvailable tracker⟩

/-- A switchboard whose limits on chats overlap, for the example. -/
def sampleLimited : Switchboard :=
  { registry := fun
      | .chats =>
        { name := "chat"
          limits := [⟨[.oneToOneChat, .groupChat], 1⟩, ⟨[.groupChat, .conferenceSubscription], 2⟩,
            ⟨[.oneToOneChat], 0⟩] }
      | .files => { name := "file_transfer" } }

/-- An example: a chat is taken, a group chat is turned down, and when the chat is removed the group
chat is taken; then a conference is taken, and another one is turned down. -/
def sampleOffers : History :=
  [.offered .chats true ⟨.given "1", ⟨.oneToOneChat, "alice"⟩, none⟩,
    .offered .chats true ⟨.given "2", ⟨.groupChat, "g"⟩, none⟩,
    .dismissed .chats ⟨.given "1", ⟨.oneToOneChat, "alice"⟩, none⟩, .carriedOut 0,
    .offered .chats true ⟨.given "3", ⟨.groupChat, "g"⟩, none⟩,
    .offered .chats true ⟨.given "4", ⟨.conferenceSubscription, "c"⟩, none⟩,
    .offered .chats true ⟨.given "5", ⟨.conferenceSubscription, "d"⟩, none⟩]

/-- In the example, both limits are reached in the end, and neither was ever passed. -/
theorem limits_reached_in_sample :
    ((sampleLimited.after sampleOffers).chats.sessions.map Member.id) =
      [.given "3", .given "4"] ∧
    Checked .chats sampleOffers ∧
    ∀ limit ∈ sampleLimited.chats.limits, 0 < limit.max →
      (sampleLimited.after sampleOffers).chats.sessions.countP
        (fun member => member.kind.category ∈ limit.categories) ≤ limit.max := by
  have hchecked : Checked .chats sampleOffers := by simp [Checked, sampleOffers]
  exact ⟨by decide +kernel, hchecked, (capacity_safe (b := sampleLimited) (by rfl) hchecked).1⟩

end Switchboard

end ImsClient.Session
