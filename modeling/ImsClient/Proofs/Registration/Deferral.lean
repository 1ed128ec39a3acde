import ImsClient.Proofs.Places
import ImsClient.Proofs.Registration.Notices

/-!
# Deferred un-REGISTERs

To un-REGISTER during a REGISTER takes no place in line. A flag is left, and the call
that the REGISTER is for gets in line to un-REGISTER when the listener returns from
the notice of its success: the un-REGISTER is redeemed. So who is called between the
two is ahead of the un-REGISTER, although it was asked for first.
-/

namespace ImsClient.Registration

namespace Manager

/-- On an event, a call whose REGISTER succeeded takes over an un-REGISTER that was deferred. -/
def Redeems (m : Manager) : Event → Prop
  | .returned call => ∃ callback, m.callbacks.find? (·.call = call) = some callback ∧
      callback.afterwards = .performDeferred ∧ m.deferred = true ∧ m.state ≠ .registering
  | _ => False

/-- Along a run, an un-REGISTER that was deferred is redeemed. -/
def Redeemed (m : Manager) (history : History) : Prop :=
  ∃ before now event rest, history = before ++ (now, event) :: rest ∧ (m.after before).Redeems event

/-! ### Who gets in line to un-REGISTER -/

/-- Whoever gets in line because of a turn is to register. -/
theorem errand_of_mem_followUp {m : Manager} {first waiter : Waiter}
    (hwaiter : waiter ∈ m.followUp first) : waiter.errand = .register := by
  unfold followUp at hwaiter
  split at hwaiter
  · obtain rfl := List.mem_singleton.mp hwaiter
    rfl
  · cases hwaiter

/-- Whoever gets in line when a waiter does is that waiter, or is to register. -/
theorem mem_arrivals {m : Manager} {first waiter : Waiter} (hwaiter : waiter ∈ m.arrivals first) :
    waiter = first ∨ waiter.errand = .register := by
  rcases List.mem_cons.mp hwaiter with hfirst | hfollow
  · exact .inl hfirst
  · split at hfollow
    · exact .inr (errand_of_mem_followUp hfollow)
    · cases hfollow

/-- Whoever gets in line to un-REGISTER asks for it, or redeems an un-REGISTER that was deferred. -/
theorem redeems_or_called_of_joins {m : Manager} {now : Instant} {event : Event} {waiter : Waiter}
    {deferred : Bool} (hjoins : waiter ∈ m.joins now event)
    (herrand : waiter.errand = .unregister deferred) :
    deferred = true ∧ m.Redeems event ∨
      deferred = false ∧ ∃ call, event = .called call .unregister := by
  have hother {first : Waiter} (harrives : waiter ∈ m.arrivals first) :
      first.errand = .unregister deferred := by
    rcases mem_arrivals harrives with rfl | hregister
    · exact herrand
    · rw [herrand] at hregister
      cases hregister
  cases event with
  | replied reply => cases hjoins
  | called call what =>
    simp only [joins] at hjoins
    split at hjoins
    · cases hjoins
    · have hwhat : what.errand = .unregister deferred := hother hjoins
      cases what <;> cases hwhat
      exact .inr ⟨rfl, call, rfl⟩
  | granted =>
    simp only [joins] at hjoins
    split at hjoins
    · rw [errand_of_mem_followUp hjoins] at herrand
      cases herrand
    · cases hjoins
  | fired call =>
    simp only [joins] at hjoins
    split at hjoins
    · cases hother hjoins
    · cases hjoins
  | returned call =>
    simp only [joins] at hjoins
    cases hfind : m.callbacks.find? (·.call = call) with
    | none =>
      rw [hfind] at hjoins
      cases hjoins
    | some callback =>
      simp only [hfind, Option.elim, resumptions] at hjoins
      split at hjoins
      · cases hother hjoins
      · rename_i hafterwards
        split at hjoins
        · rename_i hdeferred
          cases hother hjoins
          exact .inl ⟨rfl, callback, hfind, hafterwards, hdeferred⟩
        · cases hjoins
      · cases hjoins

/-- Somebody gets in line for a deferred un-REGISTER exactly when it is redeemed. -/
theorem joins_deferred_iff (m : Manager) (now : Instant) (event : Event) :
    (∃ waiter ∈ m.joins now event, waiter.errand = .unregister true) ↔ m.Redeems event := by
  constructor
  · rintro ⟨waiter, hjoins, herrand⟩
    rcases redeems_or_called_of_joins hjoins herrand with ⟨_, hredeems⟩ | ⟨hfalse, _⟩
    · exact hredeems
    · cases hfalse
  · intro hredeems
    cases event with
    | called | granted | replied | fired => cases hredeems
    | returned call =>
      obtain ⟨callback, hfind, hafterwards, hdeferred⟩ := hredeems
      refine ⟨⟨callback.call, .unregister true⟩, ?_, rfl⟩
      simp only [joins, hfind, Option.elim, resumptions, hafterwards, hdeferred, ne_eq,
        not_false_eq_true, and_self, if_true]
      exact List.mem_cons_self

/-- Along a run, somebody gets in line for a deferred un-REGISTER exactly if one is redeemed. -/
theorem joined_deferred_iff (m : Manager) (history : History) :
    (∃ waiter ∈ m.joined history, waiter.errand = .unregister true) ↔ m.Redeemed history := by
  constructor
  · rintro ⟨waiter, hjoined, herrand⟩
    obtain ⟨before, now, event, rest, hsplit, hjoins⟩ := (mem_along joins m history).mp hjoined
    have hredeems := (joins_deferred_iff _ now event).mp ⟨waiter, hjoins, herrand⟩
    exact ⟨before, now, event, rest, hsplit, hredeems⟩
  · rintro ⟨before, now, event, rest, hsplit, hredeems⟩
    obtain ⟨waiter, hjoins, herrand⟩ := (joins_deferred_iff _ now event).mpr hredeems
    refine ⟨waiter, ?_, herrand⟩
    exact (mem_along joins m history).mpr ⟨before, now, event, rest, hsplit, hjoins⟩

/-! ### The flag -/

/-- Work with the lock never raises the flag. -/
theorem deferred_of_perform {m : Manager} {call : CallId} {work : Work}
    (hdeferred : (m.perform call work).1.deferred = true) : m.deferred = true := by
  cases work with
  | stop thenRegister => exact hdeferred
  | exchange purpose =>
    have hprepared := m.prepare_prepared purpose
    simp only [perform, startExchange_eq] at hdeferred
    rcases (m.prepare purpose).send_cases call purpose with
      ⟨n, request, hlearns, _, heq⟩ | ⟨n, error, hlearns, _, heq⟩
    · rw [heq] at hdeferred
      rwa [← hprepared.deferred, ← hlearns.deferred]
    · rw [heq] at hdeferred
      cases hdeferred

/-- A reply never raises the flag. -/
theorem deferred_of_receive {m : Manager} {now : Instant} {reply : Reply}
    (hdeferred : (m.receive now reply).1.deferred = true) : m.deferred = true := by
  cases hexchange : m.exchange with
  | none => rwa [receive_of_no_exchange now reply hexchange] at hdeferred
  | some exchange =>
    rcases m.receive_cases now reply hexchange with
      ⟨n, request, hlearns, heq⟩ | ⟨n, error, hlearns, heq⟩ | ⟨response, _, _, heq⟩
    · rw [heq] at hdeferred
      rwa [← hlearns.deferred]
    · rw [heq] at hdeferred
      cases hdeferred
    · rw [heq] at hdeferred
      obtain ⟨call, purpose⟩ := exchange
      cases purpose <;> exact hdeferred

end Manager

open Manager

/-- A flag that is up after a move was up before and was not redeemed, or an un-REGISTER was asked
for. -/
theorem Move.deferred {m n : Manager} {begun : List Origin} {joined : List Waiter}
    {served : List Turn} {effects : List Effect} (hmove : Move m begun joined served n effects)
    (hdeferred : n.deferred = true) :
    (m.deferred = true ∧ ∀ waiter ∈ joined, waiter.errand ≠ .unregister true) ∨
      ∃ call, .caller call .unregister ∈ begun := by
  cases hmove with
  | arrive call what => exact .inl ⟨hdeferred, by cases what <;> simp [Call.errand]⟩
  | fire | conclude | proceed | decline | pass => exact .inl ⟨hdeferred, by simp⟩
  | defer call => exact .inr ⟨call, List.mem_cons_self⟩
  | redeem => cases hdeferred
  | work first rest work hfree hline hwork =>
    have hbefore := deferred_of_perform (m := { m with waiting := rest }) hdeferred
    exact .inl ⟨hbefore, by simp⟩

/-- A flag that is up after moves was up before and was not redeemed, or an un-REGISTER was asked
for. -/
theorem Moves.deferred {m n : Manager} {begun : List Origin} {joined : List Waiter}
    {served : List Turn} {effects : List Effect} (hmoves : Moves m begun joined served n effects)
    (hdeferred : n.deferred = true) :
    (m.deferred = true ∧ ∀ waiter ∈ joined, waiter.errand ≠ .unregister true) ∨
      ∃ call, .caller call .unregister ∈ begun := by
  induction hmoves with
  | refl => exact .inl ⟨hdeferred, by simp⟩
  | cons hmove _ ih =>
    rcases ih hdeferred with ⟨hmiddle, hnone⟩ | ⟨call, hcall⟩
    · rcases hmove.deferred hmiddle with ⟨hbefore, hnone'⟩ | ⟨call, hcall⟩
      · refine .inl ⟨hbefore, fun waiter hwaiter => ?_⟩
        rcases List.mem_append.mp hwaiter with hfirst | hrest
        · exact hnone' waiter hfirst
        · exact hnone waiter hrest
      · exact .inr ⟨call, List.mem_append_left _ hcall⟩
    · exact .inr ⟨call, List.mem_append_right _ hcall⟩

namespace Manager

/-- A flag that is up after a step was up before and was not redeemed, or an un-REGISTER was asked
for. -/
theorem deferred_of_step {m : Manager} {now : Instant} {event : Event}
    (hdeferred : (m.step now event).1.deferred = true)
    (hother : ∀ call, event ≠ .called call .unregister) :
    m.deferred = true ∧ ¬ m.Redeems event := by
  have hkept : m.deferred = true ∧
      ∀ waiter ∈ m.joins now event, waiter.errand ≠ .unregister true := by
    by_cases hreply : ∃ reply, event = .replied reply
    · obtain ⟨reply, rfl⟩ := hreply
      exact ⟨deferred_of_receive hdeferred, by simp [joins]⟩
    · have hmoves := m.moves_step now fun reply h => hreply ⟨reply, h⟩
      rcases hmoves.deferred hdeferred with hkept | ⟨call, hcall⟩
      · exact hkept
      · cases event <;> simp [begins] at hcall
        case called => exact absurd rfl (hcall.2 ▸ hother _)
  refine ⟨hkept.1, fun hredeems => ?_⟩
  obtain ⟨waiter, hjoins, herrand⟩ := (m.joins_deferred_iff now event).mpr hredeems
  exact hkept.2 waiter hjoins herrand

/-- Nobody asks to un-REGISTER along a run. -/
def AsksNone (history : History) : Prop := ∀ now call, (now, .called call .unregister) ∉ history

/-- If nobody asks to un-REGISTER along a run, a flag that is up after it was up before and was not
redeemed. -/
theorem deferred_of_after {m : Manager} {history : History}
    (hdeferred : (m.after history).deferred = true) (hnone : AsksNone history) :
    m.deferred = true ∧ ¬ m.Redeemed history := by
  rw [← joined_deferred_iff]
  induction history generalizing m with
  | nil => exact ⟨hdeferred, by simp [joined]⟩
  | cons entry history ih =>
    obtain ⟨now, event⟩ := entry
    obtain ⟨hmiddle, hrest⟩ := ih hdeferred fun now call h =>
      hnone now call (List.mem_cons_of_mem _ h)
    obtain ⟨hbefore, hfirst⟩ := deferred_of_step hmiddle fun call h =>
      hnone now call (h ▸ List.mem_cons_self)
    refine ⟨hbefore, ?_⟩
    rintro ⟨waiter, hwaiter, herrand⟩
    rcases List.mem_append.mp hwaiter with hjoins | hjoined
    · exact hfirst ((m.joins_deferred_iff now event).mp ⟨waiter, hjoins, herrand⟩)
    · exact hrest ⟨waiter, hjoined, herrand⟩

/-- An un-REGISTER is redeemed only if the flag was up, as long as nobody asks for another. -/
theorem deferred_of_redeemed {m : Manager} {history : History} (hredeemed : m.Redeemed history)
    (hnone : AsksNone history) : m.deferred = true := by
  obtain ⟨before, now, event, rest, rfl, hredeems⟩ := hredeemed
  have hflag : (m.after before).deferred = true := by
    cases event with
    | returned call =>
      obtain ⟨callback, _, _, hdeferred, _⟩ := hredeems
      exact hdeferred
    | called | granted | replied | fired => cases hredeems
  exact (deferred_of_after hflag fun now call h => hnone now call (List.mem_append_left _ h)).1

/-! ### The place in line -/

/-- The turns before that of a new call to register are those of the calls in line and of those
who got in line before it; behind it are those who get in line later. -/
theorem line_of_register {m : Manager} {now : Instant} {call : CallId} {before after : History}
    {ahead behind : List Turn} {turn : Turn}
    (hnew : ⟨call, .register⟩ ∉ m.waiting ++ m.joined before)
    (hserved : m.served (before ++ (now, .called call .register) :: after) =
      ahead ++ turn :: behind)
    (hturn : turn.waiter = ⟨call, .register⟩)
    (hfirst : ∀ other ∈ ahead, other.waiter ≠ ⟨call, .register⟩) :
    ahead.map Turn.waiter = m.waiting ++ m.joined before ∧
      behind.map Turn.waiter ++
          (m.after (before ++ (now, .called call .register) :: after)).waiting =
        ((m.after before).step now (.called call .register)).1.joined after := by
  have hline := m.served_append_waiting (before ++ (now, .called call .register) :: after)
  have hjoins : (m.after before).joins now (.called call .register) = [⟨call, .register⟩] := by
    simp [joins, arrivals, followUp, Call.errand]
  rw [hserved] at hline
  simp only [joined, along_append, along_cons, hjoins, List.map_append, List.map_cons, hturn,
    List.append_assoc, List.cons_append, List.nil_append] at hline
  rw [← List.append_assoc m.waiting] at hline
  refine append_cons_inj_of_first hline (fun hahead => ?_) hnew
  obtain ⟨other, hother, hwaiter⟩ := List.mem_map.mp hahead
  exact hfirst other hother hwaiter

/-- If nobody asks to un-REGISTER along a run, whoever gets in line to do so redeems an un-REGISTER
that was deferred. -/
theorem joined_unregister_iff {m : Manager} {history : History} (hnone : AsksNone history) :
    (∃ waiter ∈ m.joined history, ∃ deferred, waiter.errand = .unregister deferred) ↔
      m.Redeemed history := by
  constructor
  · rintro ⟨waiter, hjoined, deferred, herrand⟩
    obtain ⟨before, now, event, rest, rfl, hjoins⟩ := (mem_along joins m history).mp hjoined
    rcases redeems_or_called_of_joins hjoins herrand with ⟨_, hredeems⟩ | ⟨_, call, rfl⟩
    · exact ⟨before, now, event, rest, rfl, hredeems⟩
    · exact absurd (List.mem_append_right _ List.mem_cons_self) (hnone now call)
  · intro hredeemed
    obtain ⟨waiter, hjoined, herrand⟩ := (m.joined_deferred_iff history).mpr hredeemed
    exact ⟨waiter, hjoined, true, herrand⟩

/-- An un-REGISTER that is redeemed before a call to register is not redeemed once more after it,
unless somebody asks for another. -/
theorem not_redeemed_after_register {m : Manager} {now : Instant} {call : CallId}
    {before after : History} (hbefore : AsksNone before) (hafter : AsksNone after)
    (hredeemed : m.Redeemed before) :
    ¬ ((m.after before).step now (.called call .register)).1.Redeemed after := by
  intro hagain
  -- A second redemption would need the flag, which the first one took down.
  have hflag := deferred_of_redeemed hagain hafter
  have hflag' := (deferred_of_step hflag (by simp)).1
  exact (deferred_of_after hflag' hbefore).2 hredeemed

/-- **When a deferred un-REGISTER keeps its place.** An un-REGISTER is asked for while a REGISTER is
under way, and later a new call is made to register. The un-REGISTER has its turn before that call
exactly if it is redeemed before that call is made; then, unless somebody asks for another, nobody
un-REGISTERs behind that call. Who does so, or waits to, redeems the un-REGISTER after that call. -/
theorem deferred_keeps_place_iff {m m₁ m₂ : Manager} {now now' : Instant} {caller call : CallId}
    {before after : History} {ahead behind : List Turn} {turn : Turn}
    (hunderWay : m.state = .registering)
    (hasked : m₁ = (m.step now (.called caller .unregister)).1)
    (hcalled : m₂ = ((m₁.after before).step now' (.called call .register)).1)
    (hnew : ⟨call, .register⟩ ∉ m₁.waiting ++ m₁.joined before)
    (hserved : m₁.served (before ++ (now', .called call .register) :: after) =
      ahead ++ turn :: behind)
    (hturn : turn.waiter = ⟨call, .register⟩)
    (hfirst : ∀ other ∈ ahead, other.waiter ≠ ⟨call, .register⟩) :
    ((∃ other ∈ ahead.drop m.waiting.length, other.waiter.errand = .unregister true) ↔
        m₁.Redeemed before) ∧
      (AsksNone before → AsksNone after → m₁.Redeemed before →
        ∀ other ∈ behind, ∀ deferred, other.waiter.errand ≠ .unregister deferred) ∧
      (AsksNone after →
        ((∃ waiter ∈ behind.map Turn.waiter ++ (m₂.after after).waiting,
          ∃ deferred, waiter.errand = .unregister deferred) ↔ m₂.Redeemed after)) := by
  obtain ⟨hahead, hbehind⟩ := line_of_register hnew hserved hturn hfirst
  have hline : m₁.waiting = m.waiting := by
    rw [hasked]
    simp [step, begin_eq, hunderWay, finish]
  have hsince : (ahead.drop m.waiting.length).map Turn.waiter = m₁.joined before := by
    rw [List.map_drop, hahead, hline, List.drop_left]
  simp only [after_append, after_cons, ← hcalled] at hbehind
  refine ⟨?_, fun hnone hnone' hredeemed other hother deferred herrand => ?_, fun hnone => ?_⟩
  · rw [← joined_deferred_iff, ← hsince]
    constructor
    · rintro ⟨other, hother, herrand⟩
      exact ⟨other.waiter, List.mem_map_of_mem hother, herrand⟩
    · rintro ⟨waiter, hwaiter, herrand⟩
      obtain ⟨other, hother, rfl⟩ := List.mem_map.mp hwaiter
      exact ⟨other, hother, herrand⟩
  · have hlater : other.waiter ∈ m₂.joined after := by
      rw [← hbehind]
      exact List.mem_append_left _ (List.mem_map_of_mem hother)
    have hagain := (joined_unregister_iff hnone').mp ⟨other.waiter, hlater, deferred, herrand⟩
    rw [hcalled] at hagain
    exact not_redeemed_after_register hnone hnone' hredeemed hagain
  · rw [hbehind]
    exact joined_unregister_iff hnone

/-- An example: call 1 asks to un-REGISTER while call 0 registers. -/
def sampleAsked : Manager :=
  sample.after [(0, .called 0 .register), (0, .called 1 .unregister)]

/-- In the example, the listener returns before call 2 is made to register. So call 2 is behind the
un-REGISTER, and nobody un-REGISTERs behind it. -/
theorem register_behind_redeemed_unregister :
    ∃ ahead turn behind,
      sampleAsked.served ([(100, .replied .accepted), (100, .returned 0)] ++
        (100, .called 2 .register) :: [(200, .replied .accepted), (200, .granted)]) =
          ahead ++ turn :: behind ∧
      turn.waiter = ⟨2, .register⟩ ∧
      (∃ other ∈ ahead, other.waiter.errand = .unregister true) ∧
      ∀ other ∈ behind, ∀ deferred, other.waiter.errand ≠ .unregister deferred := by
  have hline := @deferred_keeps_place_iff (sample.after [(0, .called 0 .register)]) _ _ 0 100 1 2
    [(100, .replied .accepted), (100, .returned 0)] [(200, .replied .accepted), (200, .granted)]
    [⟨⟨0, .unregister true⟩, some (.exchange (.unregister true))⟩] []
    ⟨⟨2, .register⟩, some (.exchange .register)⟩
    (by decide +kernel) rfl rfl (by decide +kernel) (by decide +kernel) rfl (by decide +kernel)
  have hredeemed : sampleAsked.Redeemed [(100, .replied .accepted), (100, .returned 0)] :=
    ⟨[(100, .replied .accepted)], 100, .returned 0, [], rfl, ⟨0, .performDeferred⟩,
      by decide +kernel, rfl, by decide +kernel, by decide +kernel⟩
  have hempty : (sample.after [(0, .called 0 .register)]).waiting.length = 0 := by decide +kernel
  have hfirst := hline.1.mpr hredeemed
  rw [hempty, List.drop_zero] at hfirst
  exact ⟨_, ⟨⟨2, .register⟩, some (.exchange .register)⟩, _, by decide +kernel, rfl, hfirst,
    hline.2.1 (by simp [AsksNone]) (by simp [AsksNone]) hredeemed⟩

/-- In the example, call 2 is made to register before the listener returns: it has its turn before
the un-REGISTER that was asked for first, and the un-REGISTER takes back what it registered. -/
theorem register_undone_by_earlier_unregister :
    sampleAsked.state = .registering ∧ sampleAsked.deferred = true ∧
      sampleAsked.served [(0, .called 2 .register), (100, .replied .accepted), (100, .returned 0),
          (100, .granted), (100, .replied .accepted), (100, .returned 2), (100, .granted),
          (100, .replied .accepted)] =
        [⟨⟨2, .register⟩, some (.exchange .register)⟩,
          ⟨⟨0, .unregister true⟩, some (.exchange (.unregister true))⟩] ∧
      sampleAsked.log [(0, .called 2 .register), (100, .replied .accepted), (100, .returned 0),
          (100, .granted), (100, .replied .accepted), (100, .returned 2), (100, .granted),
          (100, .replied .accepted)] =
        [(0, .registered), (2, .registered), (0, .terminated)] := by
  decide +kernel

end Manager

end ImsClient.Registration
