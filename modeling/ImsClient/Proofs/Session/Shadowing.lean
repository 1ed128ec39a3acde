import ImsClient.Proofs.Session.Removal
import Mathlib.Data.List.Infix
import Mathlib.Data.List.Induction

/-!
# Sessions with the same Call-ID

The tracker has one place for each Call-ID, and nothing keeps sessions with the same one
from being held at the same time. The place is that of the session that was taken last.
As long as it is held it is found there; once it is removed the place is empty, and the
sessions that it had taken the place of are not found any more.
-/

namespace ImsClient.Session

/-! ### The place of a Call-ID -/

namespace Tracker

variable {tracker : Tracker} {member : Member}

/-- An entry that is put under a key leaves the entries of other keys alone. -/
theorem lookup_put_of_ne {key other : Identifier} (hne : other ≠ key) (member : Member)
    (entries : List (Identifier × Member)) :
    (put key member entries).lookup other = entries.lookup other := by
  unfold put
  rw [List.lookup_append, List.lookup_cons, beq_false_of_ne hne]
  simp only [List.lookup_nil, Option.or_none]
  induction entries with
  | nil => rfl
  | cons entry entries ih =>
    by_cases hkey : entry.1 = key
    · rw [List.filter_cons_of_neg (by simpa using hkey), ih, List.lookup_cons,
        beq_false_of_ne (fun h => hne (h.trans hkey))]
    · rw [List.filter_cons_of_pos (by simpa using hkey), List.lookup_cons, List.lookup_cons, ih]

/-- No key has two entries if none had before. -/
theorem nodup_put {entries : List (Identifier × Member)} (hkeys : (entries.map Prod.fst).Nodup)
    (key : Identifier) (member : Member) : ((put key member entries).map Prod.fst).Nodup := by
  unfold put
  rw [List.map_append, List.nodup_append]
  refine ⟨(List.filter_sublist.map _).nodup hkeys, by simp, ?_⟩
  intro other hother _ hkey
  obtain ⟨entry, hentry, rfl⟩ := List.mem_map.mp hother
  rw [List.mem_singleton.mp hkey]
  exact of_decide_eq_true (List.mem_filter.mp hentry).2

/-- Where no key has two entries, an entry that is left out leaves its key without any. -/
theorem lookup_filter {entries : List (Identifier × Member)}
    (hkeys : (entries.map Prod.fst).Nodup) (kept : Member → Bool) (key : Identifier) :
    (entries.filter fun entry => kept entry.2).lookup key = (entries.lookup key).filter kept := by
  induction entries with
  | nil => rfl
  | cons entry entries ih =>
    obtain ⟨other, member⟩ := entry
    obtain ⟨hfirst, hrest⟩ := List.nodup_cons.mp hkeys
    replace ih := ih hrest
    by_cases hkey : key = other
    · subst hkey
      have hnone : entries.lookup key = none := by
        refine List.lookup_eq_none_iff.mpr fun entry hentry => ?_
        have hne : key ≠ entry.1 := fun h => hfirst (List.mem_map.mpr ⟨entry, hentry, h.symm⟩)
        simpa using hne
      rw [hnone] at ih
      cases hkept : kept member <;> simp [Option.filter, hkept, ih]
    · cases hkept : kept member <;> simp [List.lookup_cons, hkept, beq_false_of_ne hkey, ih]

/-- A session that is taken note of is found under its Call-ID from then on, and all others are
found as before. -/
theorem byCallId?_track (tracker : Tracker) (member : Member) (callId : Identifier) :
    (tracker.track member).byCallId? callId =
      if member.callId = some callId then some member else tracker.byCallId? callId := by
  unfold track byCallId?
  cases hcallId : member.callId with
  | none => rfl
  | some key =>
    by_cases hkey : callId = key
    · subst hkey
      rw [if_pos rfl]
      exact lookup_put_self callId member tracker.dialogs
    · rw [if_neg fun h => hkey (Option.some.inj h).symm]
      exact lookup_put_of_ne hkey member tracker.dialogs

/-- No Call-ID has two entries if none had before. -/
theorem nodup_track (hkeys : (tracker.dialogs.map Prod.fst).Nodup) (member : Member) :
    ((tracker.track member).dialogs.map Prod.fst).Nodup := by
  unfold track
  cases member.callId with
  | none => exact hkeys
  | some callId => exact nodup_put hkeys callId member

/-- An entry among the dialogs is an old one, or the new one. -/
theorem mem_dialogs_of_track {entry : Identifier × Member}
    (hentry : entry ∈ (tracker.track member).dialogs) :
    entry ∈ tracker.dialogs ∨ member.callId = some entry.1 ∧ entry.2 = member := by
  unfold track at hentry
  cases hcallId : member.callId with
  | none =>
    rw [hcallId] at hentry
    exact .inl hentry
  | some callId =>
    rw [hcallId] at hentry
    rcases List.mem_append.mp hentry with hold | hnew
    · exact .inl (List.mem_of_mem_filter hold)
    · obtain rfl := List.mem_singleton.mp hnew
      exact .inr ⟨rfl, rfl⟩

/-- So is one among the sessions without a dialog. -/
theorem mem_dialogless_of_track {entry : Identifier × Member}
    (hentry : entry ∈ (tracker.track member).dialogless) :
    entry ∈ tracker.dialogless ∨ member.callId = none ∧ entry = (member.id, member) := by
  unfold track at hentry
  cases hcallId : member.callId with
  | some callId =>
    rw [hcallId] at hentry
    exact .inl hentry
  | none =>
    rw [hcallId] at hentry
    rcases List.mem_append.mp hentry with hold | hnew
    · exact .inl (List.mem_of_mem_filter hold)
    · exact .inr ⟨rfl, List.mem_singleton.mp hnew⟩

/-- Only the session that is taken note of may be new to the tracker. -/
theorem knows_of_knows_track {other : Member} (hknows : (tracker.track member).Knows other) :
    tracker.Knows other ∨ other = member := by
  rcases hknows with ⟨key, hentry⟩ | ⟨key, hentry⟩
  · exact (mem_dialogs_of_track hentry).imp (fun hold => .inl ⟨key, hold⟩) And.right
  · exact (mem_dialogless_of_track hentry).imp (fun hold => .inr ⟨key, hold⟩)
      fun hnew => congrArg Prod.snd hnew.2

/-- The new entry stands where its session belongs. -/
theorem Filed.track (h : tracker.Filed) (member : Member) : (tracker.track member).Filed where
  dialogs entry hentry := by
    rcases mem_dialogs_of_track hentry with hold | ⟨hcallId, hnew⟩
    · exact h.dialogs entry hold
    · rw [hnew, hcallId]
  dialogless entry hentry := by
    rcases mem_dialogless_of_track hentry with hold | ⟨hcallId, rfl⟩
    · exact h.dialogless entry hold
    · exact ⟨hcallId, rfl⟩

/-- Sessions that are dropped are not found, and all others are found as before. -/
theorem byCallId?_dropping (hkeys : (tracker.dialogs.map Prod.fst).Nodup) (gone : Member → Bool)
    (callId : Identifier) :
    (tracker.dropping gone).byCallId? callId = (tracker.byCallId? callId).filter fun member =>
      !gone member :=
  lookup_filter hkeys (fun member => !gone member) callId

end Tracker

/-- The session with a Call-ID that comes last among some. -/
def latest? (members : List Member) (callId : Identifier) : Option Member :=
  (members.filter (·.callId = some callId)).getLast?

theorem latest?_concat (members : List Member) (member : Member) (callId : Identifier) :
    latest? (members ++ [member]) callId =
      if member.callId = some callId then some member else latest? members callId := by
  unfold latest?
  rw [List.filter_append, List.filter_singleton]
  by_cases hcallId : member.callId = some callId
  · simp [hcallId]
  · simp [hcallId]

theorem callId_of_latest? {members : List Member} {callId : Identifier} {member : Member}
    (hlatest : latest? members callId = some member) : member.callId = some callId :=
  of_decide_eq_true (List.mem_filter.mp (List.mem_of_getLast? hlatest)).2

/-- There is a latest one if there is any. -/
theorem exists_latest? {members : List Member} {callId : Identifier} {member : Member}
    (hmember : member ∈ members) (hcallId : member.callId = some callId) :
    ∃ last, latest? members callId = some last := by
  have hfiltered : member ∈ members.filter (·.callId = some callId) :=
    List.mem_filter.mpr ⟨hmember, decide_eq_true hcallId⟩
  exact Option.isSome_iff_exists.mp (List.getLast?_isSome.mpr (List.ne_nil_of_mem hfiltered))

namespace Registries

variable {ι : Type} {r b : Registries ι} {known : Set Member} {members : List Member} {place : ι}
  {member : Member}

/-! ### What a Call-ID leads to -/

/-- No session was taken yet. -/
structure IsNew (r : Registries ι) : Prop where
  sessions : ∀ place, (r.registry place).sessions = []
  tracker : r.tracker = {}

/-- Every Call-ID that a session has that is held leads to a session that is held and has it. -/
def Resolves (r : Registries ι) : Prop :=
  ∀ callId, (∃ member, r.Holds member ∧ member.callId = some callId) →
    ∃ found, r.tracker.byCallId? callId = some found ∧ r.Holds found ∧ found.callId = some callId

/-- How registries stand after some sessions were taken: they hold some of these, and a Call-ID
leads to the latest one that has it, if that is held. -/
structure Routes (r : Registries ι) (known : Set Member) (members : List Member) : Prop where
  proper : r.Proper known
  keys : (r.tracker.dialogs.map Prod.fst).Nodup
  among : ∀ member, r.Holds member → member ∈ members
  found : ∀ callId member, r.tracker.byCallId? callId = some member ↔
    latest? members callId = some member ∧ r.Holds member

/-- Before the first event, nothing is found. -/
theorem Routes.ofIsNew (hnew : r.IsNew) (hids : Set.InjOn Member.id known) : r.Routes known [] := by
  have hnone (member : Member) : ¬ r.Holds member := by
    rintro ⟨place, hmember⟩
    simp [hnew.sessions place] at hmember
  refine ⟨⟨hids, fun place => ?_, ⟨?_, ?_⟩, fun member hheld => absurd hheld (hnone member), ?_⟩,
    ?_, fun member hheld => absurd hheld (hnone member), fun callId member => ?_⟩
  · simp [hnew.sessions place]
  all_goals simp [hnew.tracker, Tracker.Knows, Tracker.byCallId?, latest?]

variable [DecidableEq ι]

/-! ### Regular runs -/

/-- A run in which ids name sessions, and a session is never held at two places. -/
structure Regular (r : Registries ι) (history : List (Event ι)) : Prop where
  ids : ∀ first ∈ history.map Event.member, ∀ second ∈ history.map Event.member,
    first.id = second.id → first = second
  apart : ∀ before ∈ history.inits, ∀ place other,
    ∀ member ∈ ((r.after before).registry place).sessions,
      member ∈ ((r.after before).registry other).sessions → place = other

/-! ### What a run keeps -/

/-- What can come about can come about with one session more. -/
theorem Proper.withTaken (h : r.Proper known) (hknown : member ∈ known)
    (hfree : (r.registry place).get? member.kind = none) :
    (r.withTaken place member).Proper known where
  ids := h.ids
  kinds := nodup_kinds_withTaken h.kinds hfree
  filed := h.filed.track member
  held session hsession := by
    rcases holds_withTaken.mp hsession with hheld | rfl
    · exact h.held session hheld
    · exact hknown
  tracked session hsession := by
    rcases Tracker.knows_of_knows_track hsession with hbefore | rfl
    · exact h.tracked session hbefore
    · exact hknown

namespace Routes

theorem withTaken (h : r.Routes known members) (hknown : member ∈ known)
    (hfree : (r.registry place).get? member.kind = none) :
    (r.withTaken place member).Routes known (members ++ [member]) where
  proper := h.proper.withTaken hknown hfree
  keys := Tracker.nodup_track h.keys member
  among session hsession := by
    rcases holds_withTaken.mp hsession with hheld | rfl
    · exact List.mem_append_left _ (h.among session hheld)
    · exact List.mem_append_right _ List.mem_cons_self
  found callId session := by
    show (r.tracker.track member).byCallId? callId = some session ↔ _
    rw [Tracker.byCallId?_track, latest?_concat, holds_withTaken]
    by_cases hcallId : member.callId = some callId
    · simp only [hcallId, if_true, Option.some.injEq]
      exact ⟨fun hsession => ⟨hsession, .inr hsession.symm⟩, And.left⟩
    · simp only [hcallId, if_false, h.found]
      refine and_congr_right fun hlatest => (or_iff_left ?_).symm
      rintro rfl
      exact hcallId (callId_of_latest? hlatest)

/-- What a Call-ID leads to after a removal. -/
theorem byCallId?_remove (h : r.Routes known members) (hheld : member ∈ (r.registry place).sessions)
    (callId : Identifier) :
    (r.remove (place, member)).tracker.byCallId? callId =
      (r.tracker.byCallId? callId).filter (· ≠ member) := by
  have hknown : member ∈ known := h.proper.held member ⟨place, hheld⟩
  rw [h.proper.remove_eq place hknown, without_singleton_of_mem hheld]
  show (r.tracker.dropping _).byCallId? callId = _
  rw [Tracker.byCallId?_dropping h.keys]
  simp only [decide_not, ne_eq]

theorem remove (h : r.Routes known members) (hknown : member ∈ known)
    (hapart : ∀ other, member ∈ (r.registry place).sessions →
      member ∈ (r.registry other).sessions → place = other) :
    (r.remove (place, member)).Routes known members := by
  by_cases hheld : member ∈ (r.registry place).sessions
  · have hremove := h.proper.remove_eq place hknown
    have hholds (session : Member) :
        (r.remove (place, member)).Holds session ↔ r.Holds session ∧ session ≠ member := by
      rw [hremove]
      simp only [Holds, mem_without, List.mem_singleton, Prod.mk.injEq, not_and]
      constructor
      · rintro ⟨other, hsession, hkept⟩
        refine ⟨⟨other, hsession⟩, ?_⟩
        rintro rfl
        exact hkept (hapart other hheld hsession).symm rfl
      · rintro ⟨⟨other, hsession⟩, hne⟩
        exact ⟨other, hsession, fun _ => hne⟩
    refine ⟨?_, ?_, fun session hsession => h.among session ((hholds session).mp hsession).1,
      fun callId session => ?_⟩
    · rw [hremove]
      exact h.proper.without _
    · rw [hremove]
      exact (List.filter_sublist.map _).nodup h.keys
    · rw [h.byCallId?_remove hheld, Option.filter_eq_some_iff, h.found, hholds, and_assoc]
      simp
  · rw [h.proper.remove_eq place hknown, without_of_not_held (by simpa using hheld)]
    exact h

/-- Whatever happens, a Call-ID leads to the latest session that has it, if that is held. -/
theorem step (h : b.Routes known members) {event : Event ι} (hknown : event.member ∈ known)
    (hapart : ∀ place other, ∀ member ∈ (b.registry place).sessions,
      member ∈ (b.registry other).sessions → place = other) :
    (b.step event).1.Routes known (members ++ b.takes event) := by
  unfold Registries.takes Registries.step
  cases event with
  | offered place checked member =>
    cases hoffer : b.offer place checked member with
    | error e => simpa [hoffer] using h
    | ok next =>
      obtain ⟨hfree, rfl⟩ := offer_ok hoffer
      have hmember : member ∈ known := hknown
      simpa [hoffer] using h.withTaken hmember hfree
  | removed place member =>
    have hmember : member ∈ known := hknown
    simpa using h.remove hmember fun other => hapart place other member

/-- After every regular run of new registries, it does. -/
theorem after {history : List (Event ι)} (hnew : r.IsNew) (hregular : r.Regular history) :
    (r.after history).Routes {member | member ∈ history.map Event.member} (r.taken history) := by
  have hrun : ∀ before, before <+: history → (r.after before).Routes
      {member | member ∈ history.map Event.member} (r.taken before) := by
    intro before hbefore
    induction before using List.reverseRecOn with
    | nil =>
      exact ofIsNew hnew fun first hfirst second hsecond => hregular.ids first hfirst second hsecond
    | append_singleton before event ih =>
      have hprefix := (List.prefix_append before [event]).trans hbefore
      rw [after_concat, taken_concat]
      refine (ih hprefix).step ?_ (hregular.apart before ((List.mem_inits _ _).mpr hprefix))
      exact List.mem_map_of_mem (hbefore.subset (List.mem_append_right before List.mem_cons_self))
  exact hrun history (List.prefix_refl history)

end Routes

/-- **A Call-ID leads to the session that was taken last with it, while that is held.** Any number
of new registries share a tracker. After any run in which ids name sessions and no session is held
at two places, with whatever Call-IDs: a Call-ID leads to the session that was taken last of those
that have it, if that is still held, and to nothing otherwise; so it is for a client with this
tracker. All Call-IDs of sessions that are held lead to one of them exactly if the last one of each
is held. To remove a session changes nothing but that it is not found any more. -/
theorem latest_session_found {history : List (Event ι)} (hnew : r.IsNew)
    (hregular : r.Regular history) :
    (∀ callId member, (r.after history).tracker.byCallId? callId = some member ↔
      latest? (r.taken history) callId = some member ∧ (r.after history).Holds member) ∧
    (∀ e : Engine, e.tracker = (r.after history).tracker → ∀ names callId member,
      e.sessionByCallId names callId = .ok member ↔
        latest? (r.taken history) callId = some member ∧ (r.after history).Holds member) ∧
    ((r.after history).Resolves ↔
      ∀ member callId, (r.after history).Holds member → member.callId = some callId →
        ∀ last, latest? (r.taken history) callId = some last → (r.after history).Holds last) ∧
    ∀ place, ∀ member ∈ ((r.after history).registry place).sessions, ∀ callId,
      ((r.after history).remove (place, member)).tracker.byCallId? callId =
        ((r.after history).tracker.byCallId? callId).filter (· ≠ member) := by
  have hroutes := Routes.after hnew hregular
  refine ⟨hroutes.found, fun e htracker names callId member => ?_, ⟨?_, ?_⟩,
    fun place member hheld => hroutes.byCallId?_remove hheld⟩
  · rw [← hroutes.found, ← htracker]
    unfold Engine.sessionByCallId
    cases e.tracker.byCallId? callId <;> simp
  · intro hresolves member callId hheld hcallId last hlast
    obtain ⟨found, hfound, hstill, -⟩ := hresolves callId ⟨member, hheld, hcallId⟩
    obtain rfl := Option.some.inj (((hroutes.found _ _).mp hfound).1.symm.trans hlast)
    exact hstill
  · rintro hlasts callId ⟨member, hheld, hcallId⟩
    obtain ⟨last, hlast⟩ := exists_latest? (hroutes.among member hheld) hcallId
    have hstill := hlasts member callId hheld hcallId last hlast
    exact ⟨last, (hroutes.found callId last).mpr ⟨hlast, hstill⟩, hstill, callId_of_latest? hlast⟩

/-- The registries of a new client, for the example. -/
def sampleNewClient : Registries Keeper where
  registry
    | .chats => .forChat {}
    | .files => .forFileTransfer {}

/-- Two chats with the same Call-ID are taken, and one of them is removed. -/
def sampleTwins (removed : Member) : List (Event Keeper) :=
  [.offered .chats true sampleNew, .offered .chats true sampleTwin, .removed .chats removed]

theorem isNew_sampleNewClient : sampleNewClient.IsNew :=
  ⟨by rintro (_ | _) <;> rfl, rfl⟩

theorem regular_sampleTwins {removed : Member} (hremoved : removed ∈ [sampleNew, sampleTwin]) :
    sampleNewClient.Regular (sampleTwins removed) := by
  have hapart : ∀ before ∈ (sampleTwins removed).inits,
      ((sampleNewClient.after before).registry .files).sessions = [] := by
    revert removed
    decide
  refine ⟨?_, fun before hbefore place other member hplace hother => ?_⟩
  · revert removed
    decide
  · rcases place with _ | _ <;> rcases other with _ | _
    · rfl
    · simp [hapart before hbefore] at hother
    · simp [hapart before hbefore] at hplace
    · rfl

/-- In the example, the chat that was taken first is removed; the Call-ID of both still leads to the
second one. -/
theorem later_twin_found_in_sample :
    let left := sampleNewClient.after (sampleTwins sampleNew)
    sampleNewClient.IsNew ∧ sampleNewClient.Regular (sampleTwins sampleNew) ∧
      left.Resolves ∧ left.tracker.byCallId? (.given "c2") = some sampleTwin := by
  intro left
  have hregular : sampleNewClient.Regular (sampleTwins sampleNew) :=
    regular_sampleTwins (by decide)
  obtain ⟨hfound, -, hresolves, -⟩ := latest_session_found isNew_sampleNewClient hregular
  have htwin : left.Holds sampleTwin := ⟨.chats, by decide⟩
  have hlatest : latest? (sampleNewClient.taken (sampleTwins sampleNew)) (.given "c2") =
      some sampleTwin := by decide
  have hheld : ∀ member, left.Holds member → member = sampleTwin := by
    rintro member ⟨_ | _, hmember⟩
    · exact List.mem_singleton.mp hmember
    · cases hmember
  refine ⟨isNew_sampleNewClient, hregular, hresolves.mpr ?_, (hfound _ _).mpr ⟨hlatest, htwin⟩⟩
  intro member callId hmember hcallId last hlast
  obtain rfl := hheld member hmember
  obtain rfl : Identifier.given "c2" = callId := Option.some.inj hcallId
  obtain rfl := Option.some.inj (hlatest.symm.trans hlast)
  exact htwin

/-- If the second one is removed, the first one is still held, and its Call-ID leads to nothing. -/
theorem earlier_twin_lost_in_sample :
    let left := sampleNewClient.after (sampleTwins sampleTwin)
    let client : Engine := { (default : Engine) with tracker := left.tracker }
    sampleNewClient.IsNew ∧ sampleNewClient.Regular (sampleTwins sampleTwin) ∧
      left.Holds sampleNew ∧ sampleNew.callId = some (.given "c2") ∧
      left.tracker.byCallId? (.given "c2") = none ∧
      client.sessionByCallId .plain (.given "c2") = .error (.sessionNotFound "c2") ∧
      ¬ left.Resolves := by
  intro left client
  have hheld : left.Holds sampleNew := ⟨.chats, by decide⟩
  have hnone : left.tracker.byCallId? (.given "c2") = none := by decide
  refine ⟨isNew_sampleNewClient, regular_sampleTwins (by decide), hheld, rfl, hnone, by decide,
    fun hresolves => ?_⟩
  obtain ⟨found, hfound, -⟩ := hresolves _ ⟨sampleNew, hheld, rfl⟩
  cases hnone.symm.trans hfound

end Registries

end ImsClient.Session
