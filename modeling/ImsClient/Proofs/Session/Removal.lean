import ImsClient.Proofs.Session.Switchboard
import Mathlib.Data.List.Nodup
import Mathlib.Data.Set.Function
import Mathlib.Logic.Function.Basic

/-!
# Removals in any order

Any number of registries share a tracker. A removal takes its session out of a registry
and out of the tracker, unless another session stands under the key by then. So a
removal has nothing to say of any session but its own, and what a row of removals leaves
is told by which removals there are, in whichever order and however often they are
carried out.
-/

namespace ImsClient.Session

/-! ### What the tracker lets go of -/

namespace Tracker

/-- The tracker without the entries of some sessions. -/
def dropping (tracker : Tracker) (gone : Member → Bool) : Tracker where
  dialogs := tracker.dialogs.filter fun entry => !gone entry.2
  dialogless := tracker.dialogless.filter fun entry => !gone entry.2

/-- Sessions may be dropped one after another or together. -/
theorem dropping_dropping (tracker : Tracker) (first second : Member → Bool) :
    (tracker.dropping first).dropping second =
      tracker.dropping fun member => first member || second member := by
  simp only [dropping, List.filter_filter, Bool.not_or, Bool.and_comm]

/-- To drop no session changes nothing. -/
theorem dropping_none (tracker : Tracker) : (tracker.dropping fun _ => false) = tracker := by
  simp [dropping]

/-- A session has an entry in the tracker. -/
def Knows (tracker : Tracker) (member : Member) : Prop :=
  (∃ key, (key, member) ∈ tracker.dialogs) ∨ ∃ key, (key, member) ∈ tracker.dialogless

/-- What is left when sessions are dropped are the other ones. -/
theorem knows_dropping {tracker : Tracker} {gone : Member → Bool} {member : Member} :
    (tracker.dropping gone).Knows member ↔ tracker.Knows member ∧ gone member = false := by
  simp only [Knows, dropping, List.mem_filter, Bool.not_eq_true', exists_and_right, or_and_right]

/-- Every entry stands where its session belongs: under its Call-ID, or under its id if it has no
dialog. -/
structure Filed (tracker : Tracker) : Prop where
  dialogs : ∀ entry ∈ tracker.dialogs, entry.2.callId = some entry.1
  dialogless : ∀ entry ∈ tracker.dialogless, entry.2.callId = none ∧ entry.2.id = entry.1

theorem Filed.dropping {tracker : Tracker} (h : tracker.Filed) (gone : Member → Bool) :
    (tracker.dropping gone).Filed :=
  ⟨fun entry hentry => h.dialogs entry (List.mem_of_mem_filter hentry),
    fun entry hentry => h.dialogless entry (List.mem_of_mem_filter hentry)⟩

/-- To forget a session is to drop its entry, if ids name sessions. -/
theorem untrack_eq_dropping {tracker : Tracker} {member : Member} (h : tracker.Filed)
    (hids : ∀ other, tracker.Knows other → other.id = member.id → other = member) :
    tracker.untrack member = tracker.dropping fun other => other = member := by
  have hkept {entries : List (Identifier × Member)} (hne : ∀ entry ∈ entries, entry.2 ≠ member) :
      entries.filter (fun entry => !decide (entry.2 = member)) = entries :=
    List.filter_eq_self.mpr fun entry hentry => by simpa using hne entry hentry
  unfold untrack dropping
  cases hcallId : member.callId with
  | some callId =>
    have hdialogless : ∀ entry ∈ tracker.dialogless, entry.2 ≠ member := by
      rintro entry hentry rfl
      cases (h.dialogless entry hentry).1.symm.trans hcallId
    dsimp only
    rw [hkept hdialogless]
    congr 1
    refine List.filter_congr fun entry hentry => ?_
    have hiff : entry.2 = member ↔ entry.1 = callId ∧ entry.2.id = member.id := by
      refine ⟨?_, fun ⟨_, hid⟩ => hids _ (.inl ⟨_, hentry⟩) hid⟩
      rintro rfl
      exact ⟨Option.some.inj ((h.dialogs entry hentry).symm.trans hcallId), rfl⟩
    simp only [hiff, ← decide_not, not_and_or, ne_eq]
  | none =>
    have hdialogs : ∀ entry ∈ tracker.dialogs, entry.2 ≠ member := by
      rintro entry hentry rfl
      cases (h.dialogs entry hentry).symm.trans hcallId
    dsimp only
    rw [hkept hdialogs]
    congr 1
    refine List.filter_congr fun entry hentry => ?_
    have hiff : entry.2 = member ↔ entry.1 = member.id := by
      obtain ⟨_, hid⟩ := h.dialogless entry hentry
      refine ⟨?_, fun hkey => hids _ (.inr ⟨_, hentry⟩) (hid.trans hkey)⟩
      rintro rfl
      exact hid.symm
    simp only [hiff, ← decide_not, ne_eq]

end Tracker

/-! ### What is left of registries -/

namespace Registries

variable {ι : Type} {r : Registries ι} {removals : List (ι × Member)} {place : ι} {member : Member}

/-- Whether a session is to be removed from a registry that holds it. -/
def ends (r : Registries ι) (removals : List (ι × Member)) (member : Member) : Bool :=
  removals.any fun removal => removal.2 = member ∧ member ∈ (r.registry removal.1).sessions

theorem ends_iff :
    r.ends removals member = true ↔
      ∃ place, (place, member) ∈ removals ∧ member ∈ (r.registry place).sessions := by
  unfold ends
  rw [List.any_eq_true]
  constructor
  · rintro ⟨⟨place, _⟩, hremoval, hends⟩
    obtain ⟨rfl, hheld⟩ := of_decide_eq_true hends
    exact ⟨place, hremoval, hheld⟩
  · rintro ⟨place, hremoval, hheld⟩
    exact ⟨(place, member), hremoval, decide_eq_true ⟨rfl, hheld⟩⟩

variable [DecidableEq ι]

/-- Carries out removals in their order. -/
def removeAll (r : Registries ι) (removals : List (ι × Member)) : Registries ι :=
  removals.foldl remove r

/-- The registries without the sessions that are to be removed from them, and the tracker without
those that one of the registries held. -/
def without (r : Registries ι) (removals : List (ι × Member)) : Registries ι where
  registry place :=
    { r.registry place with
      sessions := (r.registry place).sessions.filter fun member => (place, member) ∉ removals }
  tracker := r.tracker.dropping (r.ends removals)

/-- A session is held at a place after removals if it was, and is not to be removed there. -/
theorem mem_without :
    member ∈ ((r.without removals).registry place).sessions ↔
      member ∈ (r.registry place).sessions ∧ (place, member) ∉ removals := by
  simp [without]

/-- Which removals there are is all that counts. -/
theorem without_congr {others : List (ι × Member)}
    (hsame : ∀ removal, removal ∈ removals ↔ removal ∈ others) :
    r.without removals = r.without others := by
  have hends : r.ends removals = r.ends others := by
    funext member
    rw [Bool.eq_iff_iff, ends_iff, ends_iff]
    simp only [hsame]
  simp only [without, hsame, hends]

/-- Sessions may be taken out one after another or together. -/
theorem without_without (r : Registries ι) (first second : List (ι × Member)) :
    (r.without first).without second = r.without (first ++ second) := by
  have hends (member : Member) :
      (r.ends first member || (r.without first).ends second member) =
        r.ends (first ++ second) member := by
    rw [Bool.eq_iff_iff, Bool.or_eq_true, ends_iff, ends_iff, ends_iff]
    simp only [mem_without, List.mem_append]
    constructor
    · rintro (⟨place, hremoval, hheld⟩ | ⟨place, hremoval, hheld, _⟩)
      · exact ⟨place, .inl hremoval, hheld⟩
      · exact ⟨place, .inr hremoval, hheld⟩
    · rintro ⟨place, hremoval, hheld⟩
      by_cases hfirst : (place, member) ∈ first
      · exact .inl ⟨place, hfirst, hheld⟩
      · exact .inr ⟨place, hremoval.resolve_left hfirst, hheld, hfirst⟩
  have htracker : ((r.without first).without second).tracker =
      (r.without (first ++ second)).tracker := by
    show (r.tracker.dropping (r.ends first)).dropping _ = _
    rw [Tracker.dropping_dropping]
    exact congrArg _ (funext hends)
  have hregistry : ((r.without first).without second).registry =
      (r.without (first ++ second)).registry := by
    funext place
    simp only [without, List.filter_filter, List.mem_append, not_or, Bool.decide_and, Bool.and_comm]
  exact Registries.ext hregistry htracker

/-- Where no session is held that is to be removed, nothing changes. -/
theorem without_of_not_held
    (habsent : ∀ removal ∈ removals, removal.2 ∉ (r.registry removal.1).sessions) :
    r.without removals = r := by
  have hends : r.ends removals = fun _ => false := by
    funext member
    rw [Bool.eq_false_iff]
    intro hends
    obtain ⟨place, hremoval, hheld⟩ := ends_iff.mp hends
    exact habsent _ hremoval hheld
  refine Registries.ext ?_ ?_
  · funext place
    show ({ r.registry place with sessions := _ } : Registry) = r.registry place
    rw [List.filter_eq_self.mpr]
    intro member hmember
    exact decide_eq_true fun hremoval => habsent _ hremoval hmember
  · show r.tracker.dropping _ = r.tracker
    rw [hends, Tracker.dropping_none]

/-- To remove one that it holds takes that session out. -/
theorem without_singleton_of_mem (hheld : member ∈ (r.registry place).sessions) :
    r.without [(place, member)] =
      r.update place
        { r.registry place with sessions := (r.registry place).sessions.filter (· ≠ member) }
        (r.tracker.dropping fun other => other = member) := by
  have hends : r.ends [(place, member)] = fun other => decide (other = member) := by
    funext other
    rw [Bool.eq_iff_iff, ends_iff, decide_eq_true_eq]
    simp only [List.mem_singleton, Prod.mk.injEq]
    constructor
    · rintro ⟨_, ⟨_, rfl⟩, _⟩
      rfl
    · rintro rfl
      exact ⟨place, ⟨rfl, rfl⟩, hheld⟩
  refine Registries.ext ?_ ?_
  · funext other
    by_cases hother : other = place
    · subst hother
      simp [without, update]
    · simp [without, update, hother]
  · exact congrArg r.tracker.dropping hends

/-! ### What is kept by removals -/

/-- Registries and a tracker that can come about: in a registry no two sessions have the same key,
the entries of the tracker stand where they belong, and ids name the sessions that are known, which
are all of those that are held or tracked. -/
structure Proper (r : Registries ι) (known : Set Member) : Prop where
  ids : Set.InjOn Member.id known
  kinds : ∀ place, ((r.registry place).sessions.map Member.kind).Nodup
  filed : r.tracker.Filed
  held : ∀ member, r.Holds member → member ∈ known
  tracked : ∀ member, r.tracker.Knows member → member ∈ known

namespace Proper

variable {known : Set Member}

theorem without (h : r.Proper known) (removals : List (ι × Member)) :
    (r.without removals).Proper known where
  ids := h.ids
  kinds place := (List.filter_sublist.map Member.kind).nodup (h.kinds place)
  filed := h.filed.dropping _
  held member := by
    rintro ⟨place, hmember⟩
    exact h.held member ⟨place, (mem_without.mp hmember).1⟩
  tracked member hmember := h.tracked member (Tracker.knows_dropping.mp hmember).1

/-- A removal takes out its session, if it is there, and nothing else. -/
theorem remove_eq (h : r.Proper known) (place : ι) (hknown : member ∈ known) :
    r.remove (place, member) = r.without [(place, member)] := by
  rcases r.remove_cases place member with ⟨current, hget, hid, heq⟩ | ⟨hother, heq⟩
  · obtain ⟨hcurrent, -⟩ := (Registry.get?_eq_some_iff (h.kinds place)).mp hget
    obtain rfl := h.ids (h.held current ⟨place, hcurrent⟩) hknown hid
    rw [heq, without_singleton_of_mem hcurrent,
      Tracker.untrack_eq_dropping h.filed fun other hother => h.ids (h.tracked other hother) hknown]
    have hkept : (r.registry place).sessions.filter (·.kind ≠ current.kind) =
        (r.registry place).sessions.filter (· ≠ current) := by
      refine List.filter_congr fun other hother => ?_
      have hiff : other.kind = current.kind ↔ other = current :=
        ⟨List.inj_on_of_nodup_map (h.kinds place) hother hcurrent, congrArg Member.kind⟩
      simp only [ne_eq, hiff]
    rw [hkept]
  · have habsent : member ∉ (r.registry place).sessions := fun hmember =>
      hother member ((Registry.get?_eq_some_iff (h.kinds place)).mpr ⟨hmember, rfl⟩) rfl
    rw [heq, without_of_not_held (by simpa using habsent)]

/-- What a row of removals leaves. -/
theorem removeAll_eq (h : r.Proper known)
    (hknown : ∀ removal ∈ removals, removal.2 ∈ known) :
    r.removeAll removals = r.without removals := by
  induction removals generalizing r with
  | nil => exact (without_of_not_held (by simp)).symm
  | cons removal removals ih =>
    have hfirst := h.remove_eq removal.1 (hknown removal List.mem_cons_self)
    show (r.remove removal).removeAll removals = _
    rw [hfirst, ih (h.without _) fun other hother => hknown other (List.mem_cons_of_mem _ hother)]
    exact without_without r [removal] removals

end Proper

/-- If the tracker has the entries of sessions that are held only, it is so after removals. -/
theorem holds_of_knows_without (htracked : ∀ member, r.tracker.Knows member → r.Holds member)
    (hknows : (r.without removals).tracker.Knows member) : (r.without removals).Holds member := by
  obtain ⟨hbefore, hkept⟩ := Tracker.knows_dropping.mp hknows
  obtain ⟨place, hheld⟩ := htracked member hbefore
  refine ⟨place, mem_without.mpr ⟨hheld, fun hremoval => ?_⟩⟩
  rw [ends_iff.mpr ⟨place, hremoval, hheld⟩] at hkept
  cases hkept

/-- **Removals commute and may be repeated.** Registries share a tracker, whatever sessions they
hold and track, also some with the same Call-ID. In whichever order and however often some
removals are carried out, what is left is the same: every registry holds the sessions that it held
and that were not to be removed from it, and finds those under their keys, also if it was another
session that was to be removed. If every session that is tracked was held, that is still so. -/
theorem removals_in_any_order {known : Set Member} {others : List (ι × Member)}
    (hproper : r.Proper known) (hknown : ∀ removal ∈ removals, removal.2 ∈ known)
    (hsame : ∀ removal, removal ∈ others ↔ removal ∈ removals) :
    r.removeAll others = r.removeAll removals ∧
    (∀ place member, member ∈ ((r.removeAll removals).registry place).sessions ↔
      member ∈ (r.registry place).sessions ∧ (place, member) ∉ removals) ∧
    (∀ place kind member, (r.registry place).get? kind = some member →
      (place, member) ∉ removals →
        ((r.removeAll removals).registry place).get? kind = some member) ∧
    ((∀ member, r.tracker.Knows member → r.Holds member) →
      ∀ member, (r.removeAll removals).tracker.Knows member →
        (r.removeAll removals).Holds member) := by
  have hothers := hproper.removeAll_eq fun removal hremoval =>
    hknown removal ((hsame removal).mp hremoval)
  rw [hothers, hproper.removeAll_eq hknown]
  refine ⟨without_congr hsame, fun _ _ => mem_without, fun place kind member hget hkept => ?_,
    fun htracked member => holds_of_knows_without htracked⟩
  obtain ⟨hheld, hkind⟩ := (Registry.get?_eq_some_iff (hproper.kinds place)).mp hget
  exact (Registry.get?_eq_some_iff ((hproper.without removals).kinds place)).mpr
    ⟨mem_without.mpr ⟨hheld, hkept⟩, hkind⟩

/-- A chat that is held no longer, for the example. -/
def sampleOld : Member := ⟨.given "1", ⟨.oneToOneChat, "alice"⟩, some (.given "c1")⟩

/-- The chat that stands under its key. -/
def sampleNew : Member := ⟨.given "2", ⟨.oneToOneChat, "alice"⟩, some (.given "c2")⟩

/-- A chat under another key, with the same Call-ID as that one. -/
def sampleTwin : Member := ⟨.given "3", ⟨.oneToOneChat, "bob"⟩, some (.given "c2")⟩

/-- A file transfer without a dialog. -/
def sampleTransfer : Member := ⟨.given "4", ⟨.fileTransfer, "f"⟩, none⟩

def sampleSessions : List Member := [sampleOld, sampleNew, sampleTwin, sampleTransfer]

/-- A client that holds all of them but the first. -/
def sampleHolding : Registries Keeper where
  registry
    | .chats => { Registry.forChat {} with sessions := [sampleNew, sampleTwin] }
    | .files => { Registry.forFileTransfer {} with sessions := [sampleTransfer] }
  tracker := ((({} : Tracker).track sampleNew).track sampleTwin).track sampleTransfer

/-- In the example, one removal comes too late and another one is carried out twice; the chat under
the key of the old one is still found. -/
theorem late_removal_evicts_nothing_in_sample :
    let removals := [(.chats, sampleOld), (.chats, sampleTwin), (.files, sampleTransfer)]
    let others := [(.files, sampleTransfer), (.chats, sampleTwin), (.chats, sampleOld),
      (.chats, sampleTwin)]
    (∀ removal, removal ∈ others ↔ removal ∈ removals) ∧
      sampleHolding.removeAll others = sampleHolding.removeAll removals ∧
      ((sampleHolding.removeAll removals).registry .chats).get? sampleOld.kind =
        some sampleNew := by
  intro removals others
  have hproper : sampleHolding.Proper {member | member ∈ sampleSessions} := by
    have hsessions : ∀ place, ∀ member ∈ (sampleHolding.registry place).sessions,
        member ∈ sampleSessions := by
      rintro (_ | _) <;> decide
    have hdialogs : ∀ entry ∈ sampleHolding.tracker.dialogs, entry.2 ∈ sampleSessions := by decide
    have hdialogless : ∀ entry ∈ sampleHolding.tracker.dialogless, entry.2 ∈ sampleSessions := by
      decide
    refine ⟨?_, ?_, ⟨by decide, by decide⟩, ?_, ?_⟩
    · show ∀ first ∈ sampleSessions, ∀ second ∈ sampleSessions, first.id = second.id →
        first = second
      decide
    · rintro (_ | _) <;> decide
    · rintro member ⟨place, hmember⟩
      exact hsessions place member hmember
    · rintro member (⟨_, hmember⟩ | ⟨_, hmember⟩)
      · exact hdialogs _ hmember
      · exact hdialogless _ hmember
  have hsame : ∀ removal, removal ∈ others ↔ removal ∈ removals := by
    have hothers : ∀ removal ∈ others, removal ∈ removals := by decide
    have hremovals : ∀ removal ∈ removals, removal ∈ others := by decide
    exact fun removal => ⟨hothers removal, hremovals removal⟩
  obtain ⟨hequal, -, hfinds, -⟩ := removals_in_any_order hproper (by decide) hsame
  exact ⟨hsame, hequal, hfinds .chats _ sampleNew (by decide) (by decide)⟩

end Registries

end ImsClient.Session
