import ImsClient.Proofs.Lookup
import ImsClient.Proofs.Places
import ImsClient.Proofs.Session.Switchboard
import Mathlib.Data.List.Infix
import Mathlib.Data.List.Perm.Basic

/-!
# Routing to live sessions

The tracker is to find a session exactly while a registry holds it: by the Call-ID
of its dialog, or by its id if it has none. Registries and tracker are kept by
different keys, and a removal may come long after its key was taken by another
session. That the entries of the tracker are those of the sessions held, each once,
is kept by every event of a run.
-/

namespace ImsClient.Session

/-- The entry of a session among the dialogs, if it has a dialog. -/
def Member.dialogEntry? (member : Member) : Option (Identifier × Member) :=
  member.callId.map fun callId => (callId, member)

/-- The entry of a session among those without a dialog, if it has none. -/
def Member.dialoglessEntry? (member : Member) : Option (Identifier × Member) :=
  match member.callId with
  | some _ => none
  | none => some (member.id, member)

/-- The entry that a session has among the dialogs. -/
theorem Member.dialogEntry?_eq_some {member found : Member} {callId : Identifier} :
    member.dialogEntry? = some (callId, found) ↔ member = found ∧ found.callId = some callId := by
  unfold Member.dialogEntry?
  cases hcallId : member.callId with
  | none =>
    simp only [Option.map_none, reduceCtorEq, false_iff, not_and]
    rintro rfl
    simp [hcallId]
  | some other =>
    simp only [Option.map_some, Option.some.injEq, Prod.mk.injEq]
    constructor
    · rintro ⟨rfl, rfl⟩
      exact ⟨rfl, hcallId⟩
    · rintro ⟨rfl, hfound⟩
      exact ⟨Option.some.inj (hcallId.symm.trans hfound), rfl⟩

/-- The entry that a session has among those without a dialog. -/
theorem Member.dialoglessEntry?_eq_some {member found : Member} {id : Identifier} :
    member.dialoglessEntry? = some (id, found) ↔
      member = found ∧ found.callId = none ∧ found.id = id := by
  unfold Member.dialoglessEntry?
  cases hcallId : member.callId with
  | some callId =>
    simp only [reduceCtorEq, false_iff, not_and]
    rintro rfl h
    simp [hcallId] at h
  | none =>
    simp only [Option.some.injEq, Prod.mk.injEq]
    constructor
    · rintro ⟨rfl, rfl⟩
      exact ⟨rfl, hcallId, rfl⟩
    · rintro ⟨rfl, _, rfl⟩
      exact ⟨rfl, rfl⟩

/-- Every session has one entry, among the dialogs or among those without one. -/
theorem length_entries (members : List Member) :
    (members.filterMap Member.dialogEntry?).length +
      (members.filterMap Member.dialoglessEntry?).length = members.length := by
  induction members with
  | nil => rfl
  | cons member members ih =>
    cases hcallId : member.callId <;>
      simp [Member.dialogEntry?, Member.dialoglessEntry?, hcallId] <;> omega

/-- Under a key without an entry, a new entry stands behind the others. -/
theorem put_of_not_mem {entries : List (Identifier × Member)} {key : Identifier} (member : Member)
    (hnew : ∀ other, (key, other) ∉ entries) :
    Tracker.put key member entries = entries ++ [(key, member)] := by
  unfold Tracker.put
  rw [List.filter_eq_self.mpr]
  rintro ⟨other, found⟩ hfound
  have hne : other ≠ key := by
    rintro rfl
    exact hnew found hfound
  simpa using hne

/-- The entries of a tracker are those of some sessions, each once. -/
structure Tracker.Tracks (tracker : Tracker) (members : List Member) : Prop where
  dialogs : tracker.dialogs.Perm (members.filterMap Member.dialogEntry?)
  dialogless : tracker.dialogless.Perm (members.filterMap Member.dialoglessEntry?)

namespace Tracker.Tracks

variable {tracker : Tracker} {members others : List Member} {member : Member}

/-- The order of the sessions does not matter. -/
theorem perm (h : tracker.Tracks members) (hperm : members.Perm others) :
    tracker.Tracks others :=
  ⟨h.dialogs.trans (hperm.filterMap _), h.dialogless.trans (hperm.filterMap _)⟩

/-- An entry among the dialogs is that of a session. -/
theorem mem_dialogs (h : tracker.Tracks members) {callId : Identifier} :
    (callId, member) ∈ tracker.dialogs ↔ member ∈ members ∧ member.callId = some callId := by
  rw [h.dialogs.mem_iff, List.mem_filterMap]
  simp only [Member.dialogEntry?_eq_some]
  constructor
  · rintro ⟨_, hmember, rfl, hcallId⟩
    exact ⟨hmember, hcallId⟩
  · rintro ⟨hmember, hcallId⟩
    exact ⟨member, hmember, rfl, hcallId⟩

/-- An entry among those without a dialog is that of a session. -/
theorem mem_dialogless (h : tracker.Tracks members) {id : Identifier} :
    (id, member) ∈ tracker.dialogless ↔
      member ∈ members ∧ member.callId = none ∧ member.id = id := by
  rw [h.dialogless.mem_iff, List.mem_filterMap]
  simp only [Member.dialoglessEntry?_eq_some]
  constructor
  · rintro ⟨_, hmember, rfl, hid⟩
    exact ⟨hmember, hid⟩
  · rintro ⟨hmember, hid⟩
    exact ⟨member, hmember, rfl, hid⟩

/-- To take note of a session adds its entry, if no other session has its Call-ID or its id. -/
theorem track (h : tracker.Tracks members)
    (hcallIds : ∀ other ∈ members, other.callId = member.callId → member.callId = none)
    (hids : ∀ other ∈ members, other.id ≠ member.id) :
    (tracker.track member).Tracks (member :: members) := by
  unfold Tracker.track
  cases hcallId : member.callId with
  | some callId =>
    have hnew : ∀ other, (callId, other) ∉ tracker.dialogs := by
      intro other hother
      obtain ⟨hmember, hsame⟩ := h.mem_dialogs.mp hother
      have hnone := hcallIds other hmember (hsame.trans hcallId.symm)
      simp [hcallId] at hnone
    refine ⟨?_, ?_⟩
    · dsimp only
      rw [put_of_not_mem member hnew]
      simp only [List.filterMap_cons, Member.dialogEntry?, hcallId, Option.map_some]
      exact (List.perm_append_singleton _ _).trans (h.dialogs.cons _)
    · simpa only [List.filterMap_cons, Member.dialoglessEntry?, hcallId] using h.dialogless
  | none =>
    have hnew : ∀ other, (member.id, other) ∉ tracker.dialogless := by
      intro other hother
      obtain ⟨hmember, _, hid⟩ := h.mem_dialogless.mp hother
      exact hids other hmember hid
    refine ⟨?_, ?_⟩
    · simpa only [List.filterMap_cons, Member.dialogEntry?, hcallId, Option.map_none] using
        h.dialogs
    · dsimp only
      rw [put_of_not_mem member hnew]
      simp only [List.filterMap_cons, Member.dialoglessEntry?, hcallId]
      exact (List.perm_append_singleton _ _).trans (h.dialogless.cons _)

/-- To forget a session takes out its entry and no other, if no other session has its id. -/
theorem untrack (h : tracker.Tracks (member :: members))
    (hids : ∀ other ∈ members, other.id ≠ member.id) :
    (tracker.untrack member).Tracks members := by
  have hdialogs := h.dialogs
  have hdialogless := h.dialogless
  unfold Tracker.untrack
  cases hcallId : member.callId with
  | some callId =>
    simp only [List.filterMap_cons, Member.dialogEntry?, Member.dialoglessEntry?, hcallId,
      Option.map_some] at hdialogs hdialogless
    refine ⟨filter_perm_of_perm_cons hdialogs (by simp) ?_, hdialogless⟩
    rintro ⟨key, found⟩ hfound
    obtain ⟨other, hother, hentry⟩ := List.mem_filterMap.mp hfound
    obtain ⟨rfl, _⟩ := Member.dialogEntry?_eq_some.mp hentry
    simp [hids other hother]
  | none =>
    simp only [List.filterMap_cons, Member.dialogEntry?, Member.dialoglessEntry?, hcallId,
      Option.map_none] at hdialogs hdialogless
    refine ⟨hdialogs, filter_perm_of_perm_cons hdialogless (by simp) ?_⟩
    rintro ⟨key, found⟩ hfound
    obtain ⟨other, hother, hentry⟩ := List.mem_filterMap.mp hfound
    obtain ⟨rfl, _, rfl⟩ := Member.dialoglessEntry?_eq_some.mp hentry
    simpa using hids other hother

end Tracker.Tracks

/-! ### What a registry takes out -/

/-- Where all keys are distinct, to leave a key out takes out the one session under it. -/
theorem perm_cons_filter_kind {sessions : List Member} {member : Member}
    (hkinds : (sessions.map Member.kind).Nodup) (hmember : member ∈ sessions) :
    sessions.Perm (member :: sessions.filter (·.kind ≠ member.kind)) := by
  induction sessions with
  | nil => cases hmember
  | cons first rest ih =>
    obtain ⟨hfirst, hrest⟩ := List.nodup_cons.mp hkinds
    rcases List.mem_cons.mp hmember with rfl | hmember
    · have hkept : rest.filter (·.kind ≠ member.kind) = rest := by
        refine List.filter_eq_self.mpr fun other hother => ?_
        have hne : other.kind ≠ member.kind := fun h => hfirst (h ▸ List.mem_map_of_mem hother)
        simpa using hne
      rw [List.filter_cons_of_neg (by simp), hkept]
    · have hne : first.kind ≠ member.kind := fun h => hfirst (h ▸ List.mem_map_of_mem hmember)
      rw [List.filter_cons_of_pos (by simpa using hne)]
      exact ((ih hrest hmember).cons first).trans (.swap member first _)

namespace Registries

/-- With one session more, the members are that session and the others. -/
theorem members_withTaken (r : Registries Keeper) (keeper : Keeper) (member : Member) :
    (r.withTaken keeper member).members.Perm (member :: r.members) := by
  cases keeper with
  | chats =>
    exact (List.perm_append_singleton member r.chats.sessions).append_right r.files.sessions
  | files =>
    show (r.chats.sessions ++ (r.files.sessions ++ [member])).Perm
      (member :: (r.chats.sessions ++ r.files.sessions))
    rw [← List.append_assoc]
    exact List.perm_append_singleton member _

/-- If all keys of its service are distinct, the members are a session that is taken out by its key
and those that remain. -/
theorem members_perm_cons (r : Registries Keeper) {keeper : Keeper} {member : Member}
    (tracker : Tracker) (hkinds : ((r.registry keeper).sessions.map Member.kind).Nodup)
    (hmember : member ∈ (r.registry keeper).sessions) :
    r.members.Perm (member :: (r.update keeper
      { r.registry keeper with
        sessions := (r.registry keeper).sessions.filter (·.kind ≠ member.kind) }
      tracker).members) := by
  cases keeper with
  | chats => exact (perm_cons_filter_kind hkinds hmember).append_right r.files.sessions
  | files =>
    show (r.chats.sessions ++ r.files.sessions).Perm
      (member :: (r.chats.sessions ++ r.files.sessions.filter (·.kind ≠ member.kind)))
    exact ((perm_cons_filter_kind hkinds hmember).append_left r.chats.sessions).trans
      List.perm_middle

end Registries

namespace Switchboard

/-- Who is offered to whom along a run. -/
def Event.offer? : Event → Option (Keeper × Member)
  | .offered keeper _ member => some (keeper, member)
  | .dismissed .. | .carriedOut _ => none

/-- The session that an event is about. -/
def Event.member? : Event → Option Member
  | .offered _ _ member | .dismissed _ member => some member
  | .carriedOut _ => none

/-- A run in which ids name sessions, a session is offered to one service only, and no two sessions
with the same Call-ID are held at the same time. -/
structure Orderly (b : Switchboard) (history : History) : Prop where
  ids : ∀ first ∈ history.filterMap Event.member?, ∀ second ∈ history.filterMap Event.member?,
    first.id = second.id → first = second
  keeper : ∀ first ∈ history.filterMap Event.offer?, ∀ second ∈ history.filterMap Event.offer?,
    first.2 = second.2 → first.1 = second.1
  callIds : ∀ before ∈ history.inits,
    ∀ first ∈ (b.after before).members, ∀ second ∈ (b.after before).members,
      first.callId = second.callId → first = second ∨ first.callId = none

/-- Who was offered was mentioned. -/
theorem mentioned_of_offered {history : History} {keeper : Keeper} {member : Member}
    (hoffered : (keeper, member) ∈ history.filterMap Event.offer?) :
    member ∈ history.filterMap Event.member? := by
  obtain ⟨event, hevent, hoffer⟩ := List.mem_filterMap.mp hoffered
  refine List.mem_filterMap.mpr ⟨event, hevent, ?_⟩
  cases event with
  | offered =>
    cases hoffer
    rfl
  | dismissed | carriedOut => cases hoffer

/-- What was seen in a run is still seen in a longer one. -/
theorem mem_filterMap_append_left {α : Type} {observe : Event → Option α} {x : α}
    {history : History} (later : History) (hx : x ∈ history.filterMap observe) :
    x ∈ (history ++ later).filterMap observe := by
  rw [List.filterMap_append]
  exact List.mem_append_left _ hx

namespace Orderly

variable {start : Switchboard} {history : History}

/-- The beginning of an orderly run is orderly. -/
theorem left {later : History} (h : start.Orderly (history ++ later)) :
    start.Orderly history := by
  refine ⟨?_, ?_, ?_⟩
  · intro first hfirst second hsecond
    exact h.ids first (mem_filterMap_append_left later hfirst) second
      (mem_filterMap_append_left later hsecond)
  · intro first hfirst second hsecond
    exact h.keeper first (mem_filterMap_append_left later hfirst) second
      (mem_filterMap_append_left later hsecond)
  · intro before hbefore
    have hprefix := ((List.mem_inits _ _).mp hbefore).trans (List.prefix_append history later)
    exact h.callIds before ((List.mem_inits _ _).mpr hprefix)

/-- If every session that is held was offered to its service, a session that its service does not
hold has another id than all of them. -/
theorem id_ne (h : start.Orderly history) {r : Registries Keeper}
    (hheld : ∀ keeper, ∀ member ∈ (r.registry keeper).sessions,
      (keeper, member) ∈ history.filterMap Event.offer?)
    {keeper : Keeper} {member other : Member}
    (hoffered : (keeper, member) ∈ history.filterMap Event.offer?)
    (habsent : member ∉ (r.registry keeper).sessions) (hother : other ∈ r.members) :
    other.id ≠ member.id := by
  intro hid
  obtain ⟨holder, hsession⟩ := Registries.mem_members_iff.mp hother
  have hholder := hheld holder other hsession
  obtain rfl := h.ids other (mentioned_of_offered hholder) member
    (mentioned_of_offered hoffered) hid
  obtain rfl : holder = keeper := h.keeper _ hholder _ hoffered rfl
  exact habsent hsession

end Orderly

/-! ### The invariant -/

/-- How a switchboard stands after a run: each service holds one session under a key, and only
sessions that were offered to it; every removal to come was asked for; and the tracker has the
entries of the sessions that are held. -/
structure Routed (b : Switchboard) (history : History) : Prop where
  kinds : ∀ keeper, ((b.registry keeper).sessions.map Member.kind).Nodup
  offered : ∀ keeper, ∀ member ∈ (b.registry keeper).sessions,
    (keeper, member) ∈ history.filterMap Event.offer?
  dismissed : ∀ removal ∈ b.removals, removal.2 ∈ history.filterMap Event.member?
  tracks : b.tracker.Tracks b.members

namespace Routed

variable {start b : Switchboard} {history : History}

/-- Before the first event, there is nothing to find. -/
theorem ofIsEmpty (hempty : b.IsEmpty) : b.Routed [] := by
  have hsessions : ∀ keeper, (b.registry keeper).sessions = [] := by
    rintro (_ | _)
    · exact hempty.chats
    · exact hempty.files
  refine ⟨fun keeper => ?_, fun keeper member hmember => ?_, fun removal hremoval => ?_, ?_⟩
  · rw [hsessions keeper]
    exact List.nodup_nil
  · rw [hsessions keeper] at hmember
    cases hmember
  · rw [hempty.removals] at hremoval
    cases hremoval
  · have hmembers : b.members = [] := by
      rw [Registries.members, hempty.chats, hempty.files, List.nil_append]
    rw [hmembers, hempty.tracker]
    exact ⟨.refl _, .refl _⟩

/-- A session that is held was mentioned. -/
theorem mentioned (h : b.Routed history) {member : Member} (hmember : member ∈ b.members) :
    member ∈ history.filterMap Event.member? := by
  obtain ⟨keeper, hheld⟩ := Registries.mem_members_iff.mp hmember
  exact mentioned_of_offered (h.offered keeper member hheld)

/-- What was said of a switchboard holds as well after an event that it took no notice of. -/
theorem later (h : b.Routed history) (event : Event) : b.Routed (history ++ [event]) :=
  ⟨h.kinds,
    fun keeper member hmember => mem_filterMap_append_left _ (h.offered keeper member hmember),
    fun removal hremoval => mem_filterMap_append_left _ (h.dismissed removal hremoval), h.tracks⟩

/-- A session that is taken is found from then on, if it has its id and its Call-ID for itself. -/
theorem take (h : b.Routed history) (horderly : start.Orderly history) {keeper : Keeper}
    {member : Member} (hfree : (b.registry keeper).get? member.kind = none)
    (hoffered : (keeper, member) ∈ history.filterMap Event.offer?)
    (hcallIds : ∀ other ∈ b.members, other.callId = member.callId →
      other = member ∨ other.callId = none) :
    ({ b with toRegistries := b.withTaken keeper member } : Switchboard).Routed history := by
  have hkind := (Registry.get?_eq_none_iff _ _).mp hfree
  have habsent : member ∉ (b.registry keeper).sessions :=
    fun hmember => hkind (List.mem_map_of_mem hmember)
  have hids : ∀ other ∈ b.members, other.id ≠ member.id :=
    fun other => horderly.id_ne h.offered hoffered habsent
  refine ⟨Registries.nodup_kinds_withTaken h.kinds hfree, fun other session hsession => ?_,
    h.dismissed, (h.tracks.track ?_ hids).perm (b.members_withTaken keeper member).symm⟩
  · rcases Registries.mem_withTaken.mp hsession with hbefore | ⟨rfl, rfl⟩
    · exact h.offered other session hbefore
    · exact hoffered
  · intro other hother hsame
    rcases hcallIds other hother hsame with rfl | hnone
    · exact absurd rfl (hids other hother)
    · exact hsame.symm.trans hnone

/-- However late a removal is carried out, it takes out the session that it was asked for, from its
service and from the tracker, or nothing. -/
theorem carryOut (h : b.Routed history) (horderly : start.Orderly history) (keeper : Keeper)
    {member : Member} (hmentioned : member ∈ history.filterMap Event.member?) :
    (b.withRegistries (.removed keeper member)).Routed history := by
  unfold withRegistries Registries.step
  dsimp only
  rcases b.toRegistries.remove_cases keeper member with ⟨current, hget, hid, heq⟩ | ⟨_, heq⟩
  · rw [heq]
    have hcurrent : current ∈ (b.registry keeper).sessions := List.mem_of_find?_eq_some hget
    have hoffered := h.offered keeper current hcurrent
    obtain rfl := horderly.ids current (mentioned_of_offered hoffered) member hmentioned hid
    have hperm := b.members_perm_cons (b.tracker.untrack current) (h.kinds keeper) hcurrent
    generalize hafter : b.toRegistries.update keeper _ _ = after at hperm ⊢
    have hregistry : ∀ other, (after.registry other).sessions =
        if other = keeper then (b.registry keeper).sessions.filter (·.kind ≠ current.kind)
        else (b.registry other).sessions := by
      intro other
      rw [← hafter, Registries.registry_update]
      split <;> rfl
    have hsublist : ∀ other,
        (after.registry other).sessions.Sublist (b.registry other).sessions := by
      intro other
      rw [hregistry other]
      split
      · next hsame =>
        subst hsame
        exact List.filter_sublist
      · exact .refl _
    have hheld : ∀ other, ∀ session ∈ (after.registry other).sessions,
        (other, session) ∈ history.filterMap Event.offer? :=
      fun other session hsession => h.offered other session ((hsublist other).subset hsession)
    have habsent : current ∉ (after.registry keeper).sessions := by
      rw [hregistry keeper, if_pos rfl]
      simp
    have htracker : after.tracker = b.tracker.untrack current := by rw [← hafter]; rfl
    refine ⟨fun other => ((hsublist other).map Member.kind).nodup (h.kinds other), hheld,
      h.dismissed, ?_⟩
    dsimp only
    rw [htracker]
    exact (h.tracks.perm hperm).untrack fun other =>
      horderly.id_ne hheld hoffered habsent
  · rw [heq]
    exact h

/-- Whatever happens, the switchboard finds the sessions that are held afterwards. -/
theorem step (h : (start.after history).Routed history) (event : Event)
    (horderly : start.Orderly (history ++ [event])) :
    ((start.after history).step event).1.Routed (history ++ [event]) := by
  have hlater := h.later event
  cases event with
  | offered keeper checked member =>
    have hcallIds := horderly.callIds _ ((List.mem_inits _ _).mpr (List.prefix_refl _))
    rw [after_concat] at hcallIds
    unfold Switchboard.step withRegistries Registries.step at hcallIds ⊢
    dsimp only at hcallIds ⊢
    cases hoffer : (start.after history).toRegistries.offer keeper checked member with
    | error e => exact hlater
    | ok r =>
      rw [hoffer] at hcallIds
      obtain ⟨hfree, rfl⟩ := Registries.offer_ok hoffer
      have hperm := (start.after history).members_withTaken keeper member
      refine hlater.take horderly hfree (by simp [Event.offer?]) fun other hother hsame => ?_
      exact hcallIds other (hperm.mem_iff.mpr (List.mem_cons_of_mem _ hother)) member
        (hperm.mem_iff.mpr List.mem_cons_self) hsame
  | dismissed keeper member =>
    refine ⟨hlater.kinds, hlater.offered, fun removal hremoval => ?_, hlater.tracks⟩
    rcases List.mem_append.mp hremoval with hremoval | hremoval
    · exact hlater.dismissed removal hremoval
    · rw [List.mem_singleton.mp hremoval]
      simp [Event.member?]
  | carriedOut place =>
    unfold Switchboard.step
    dsimp only
    cases hremoval : (start.after history).removals[place]? with
    | none => exact hlater
    | some removal =>
      obtain ⟨keeper, member⟩ := removal
      have hmentioned := hlater.dismissed _ (List.mem_of_getElem? hremoval)
      refine Routed.carryOut ?_ horderly keeper hmentioned
      exact ⟨hlater.kinds, hlater.offered,
        fun removal hremoval => hlater.dismissed removal (List.mem_of_mem_eraseIdx hremoval),
        hlater.tracks⟩

/-- After every orderly run that starts with no session, the switchboard finds the sessions that
are held. -/
theorem after (hempty : start.IsEmpty) (horderly : start.Orderly history) :
    (start.after history).Routed history := by
  induction history using List.reverseRecOn with
  | nil => exact ofIsEmpty hempty
  | append_singleton history event ih =>
    rw [after_concat]
    exact (ih horderly.left).step event horderly

end Routed

/-- **Registries and tracker agree.** Two registries that share a tracker start without sessions.
After any run in which ids name sessions, each session is offered to one registry and no two
sessions with the same Call-ID are held at a time, and in which removals are carried out at any
later points in any order: the tracker finds by a Call-ID exactly the session that is held and has
a dialog with it, and by an id exactly the session that is held without a dialog and has it; it has
as many entries as both registries together; and a session that is turned down changes nothing. -/
theorem routes_agree {b : Switchboard} {history : History} (hempty : b.IsEmpty)
    (horderly : b.Orderly history) :
    (∀ callId member, (b.after history).tracker.byCallId? callId = some member ↔
      member ∈ (b.after history).members ∧ member.callId = some callId) ∧
    (∀ id member, (b.after history).tracker.bySessionId? id = some member ↔
      member ∈ (b.after history).members ∧ member.callId = none ∧ member.id = id) ∧
    (b.after history).tracker.dialogs.length + (b.after history).tracker.dialogless.length =
      (b.after history).chats.sessions.length + (b.after history).files.sessions.length ∧
    ∀ keeper checked member error,
      ((b.after history).step (.offered keeper checked member)).2 = some error →
        ((b.after history).step (.offered keeper checked member)).1 = b.after history := by
  have hrouted := Routed.after hempty horderly
  have htracks := hrouted.tracks
  refine ⟨fun callId member => ?_, fun id member => ?_, ?_, fun keeper checked member error => ?_⟩
  · rw [← htracks.mem_dialogs]
    refine lookup_eq_some_iff_mem fun other hother hmember => ?_
    obtain ⟨hheld, hcallId⟩ := htracks.mem_dialogs.mp hother
    obtain ⟨hheld', hcallId'⟩ := htracks.mem_dialogs.mp hmember
    have hhistory := (List.mem_inits history history).mpr (List.prefix_refl history)
    refine (horderly.callIds history hhistory other hheld member hheld'
      (hcallId.trans hcallId'.symm)).resolve_right ?_
    simp [hcallId]
  · rw [← htracks.mem_dialogless]
    refine lookup_eq_some_iff_mem fun other hother hmember => ?_
    obtain ⟨hheld, _, hid⟩ := htracks.mem_dialogless.mp hother
    obtain ⟨hheld', _, hid'⟩ := htracks.mem_dialogless.mp hmember
    exact horderly.ids other (hrouted.mentioned hheld) member (hrouted.mentioned hheld')
      (hid.trans hid'.symm)
  · rw [htracks.dialogs.length_eq, htracks.dialogless.length_eq, length_entries,
      Registries.members, List.length_append]
  · unfold step withRegistries Registries.step
    dsimp only
    split
    · simp
    · simp

/-- A new switchboard, for the example. -/
def sample : Switchboard := ofEngine (.ofProcedure {} ⟨.v4 [10, 0, 0, 2], 5060⟩ .giba)

/-- A chat with a dialog. -/
def sampleChat : Member := ⟨.given "1", ⟨.oneToOneChat, "alice"⟩, some (.given "c1")⟩

/-- The next chat, under the same key. -/
def sampleNext : Member := ⟨.given "2", ⟨.oneToOneChat, "alice"⟩, some (.given "c2")⟩

/-- A file transfer without a dialog. -/
def sampleFile : Member := ⟨.given "3", ⟨.fileTransfer, "f"⟩, none⟩

/-- An example: the key of a chat is taken as long as it is held; its removal is asked for twice,
and the second time it is carried out after its key was taken by the next chat. -/
def sampleRun : History :=
  [.offered .chats true sampleChat, .offered .files false sampleFile,
    .offered .chats true sampleNext, .dismissed .chats sampleChat, .dismissed .chats sampleChat,
    .carriedOut 1, .offered .chats true sampleNext, .carriedOut 0]

/-- In the example, the late removal of the first chat leaves the next one to be found. -/
theorem finds_next_chat_in_sample :
    sample.IsEmpty ∧ sample.Orderly sampleRun ∧
      (sample.after sampleRun).tracker.byCallId? (.given "c2") = some sampleNext ∧
      (sample.after sampleRun).tracker.byCallId? (.given "c1") ≠ some sampleChat ∧
      (sample.after sampleRun).tracker.bySessionId? (.given "3") = some sampleFile := by
  have hempty : sample.IsEmpty := isEmpty_ofEngine _ _ _
  have horderly : sample.Orderly sampleRun :=
    ⟨by decide +kernel, by decide +kernel, by decide +kernel⟩
  obtain ⟨hcallIds, hids, _⟩ := routes_agree hempty horderly
  refine ⟨hempty, horderly, ?_, ?_, ?_⟩
  · exact (hcallIds _ _).mpr (by decide +kernel)
  · exact fun hfound => absurd ((hcallIds _ _).mp hfound) (by decide +kernel)
  · exact (hids _ _).mpr (by decide +kernel)

end Switchboard

end ImsClient.Session
