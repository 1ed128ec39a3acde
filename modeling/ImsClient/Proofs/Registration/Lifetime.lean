import ImsClient.Proofs.Registration.Information
import ImsClient.Proofs.Registration.Recognition
import ImsClient.Proofs.Time.Binary64
import Mathlib.Data.Rat.Cast.Order
import Mathlib.Tactic.Linarith
import Mathlib.Tactic.NormNum

/-!
# When a registration is refreshed

A grant of `e` seconds is refreshed after `e - min (e / 2) 600` seconds: half-way through if
it is short, and ten minutes before its end if it is long. Both rules are exact, and they
meet at twenty minutes. What is granted is never zero, because neither the settings, nor a
423, nor a grant can make it zero; so the refresh always comes after the grant, and before
the registration lapses. Which lifetime that is hangs on whether the device knows its own
binding again: if it takes another one, or none, the refresh is planned by a lifetime that
is not that of its binding.
-/

namespace ImsClient

namespace Duration

/-- The exact length of a duration, in seconds. -/
def inSeconds (d : Duration) : ℚ := d.nanoseconds / 1_000_000_000

/-- Whole seconds are as many seconds. -/
theorem inSeconds_ofSeconds (n : Nat) : (ofSeconds n).inSeconds = n := by
  rw [inSeconds, ofSeconds]
  push_cast
  ring

/-- Of two durations, the one of fewer seconds has fewer nanoseconds. -/
theorem inSeconds_lt_iff {d d' : Duration} :
    d.inSeconds < d'.inSeconds ↔ d.nanoseconds < d'.nanoseconds := by
  rw [inSeconds, inSeconds, div_lt_div_iff_of_pos_right (by norm_num), Nat.cast_lt]

end Duration

namespace Registration

variable {expiry : Nat}

/-! ### The delay of a refresh -/

/-- A short registration is refreshed half-way through. -/
theorem inSeconds_refreshDelay_of_short (hpos : 0 < expiry) (hshort : expiry ≤ shortExpiry) :
    (refreshDelay expiry).inSeconds = expiry / 2 := by
  have hbits : expiry < 2 ^ 53 := Nat.lt_of_le_of_lt hshort (by decide)
  rw [refreshDelay, if_pos hshort, Duration.scale_half hpos hbits, Duration.inSeconds]
  push_cast
  ring

/-- A long registration is refreshed a fixed time before its end. -/
theorem inSeconds_refreshDelay_of_long (hlong : shortExpiry < expiry) :
    (refreshDelay expiry).inSeconds = expiry - refreshMargin := by
  have hmargin : refreshMargin ≤ expiry := Nat.le_trans (by decide) hlong.le
  rw [refreshDelay, if_neg hlong.not_ge, Duration.inSeconds, Duration.ofSeconds]
  push_cast [Nat.cast_sub hmargin]
  ring

/-- **The delay of a refresh.** Both rules are one: a registration is refreshed when half of it is
left, or ten minutes of it if that is less. -/
theorem inSeconds_refreshDelay (hpos : 0 < expiry) :
    (refreshDelay expiry).inSeconds = expiry - min ((expiry : ℚ) / 2) 600 := by
  rcases Nat.lt_or_ge shortExpiry expiry with hlong | hshort
  · have hhalf : (1200 : ℚ) ≤ expiry := by exact_mod_cast hlong.le
    rw [inSeconds_refreshDelay_of_long hlong, min_eq_right (by linarith), refreshMargin,
      Nat.cast_ofNat]
  · have hhalf : (expiry : ℚ) ≤ 1200 := by exact_mod_cast hshort
    rw [inSeconds_refreshDelay_of_short hpos hshort, min_eq_left (by linarith)]
    ring

/-- A refresh comes after the grant. -/
theorem inSeconds_refreshDelay_pos (hpos : 0 < expiry) : 0 < (refreshDelay expiry).inSeconds := by
  have hpos' : (0 : ℚ) < expiry := by exact_mod_cast hpos
  have hhalf := min_le_left ((expiry : ℚ) / 2) 600
  rw [inSeconds_refreshDelay hpos]
  linarith

/-- A refresh comes before the registration lapses. -/
theorem inSeconds_refreshDelay_lt (hpos : 0 < expiry) :
    (refreshDelay expiry).inSeconds < expiry := by
  have hpos' : (0 : ℚ) < expiry := by exact_mod_cast hpos
  have hleft : 0 < min ((expiry : ℚ) / 2) 600 := lt_min (by linarith) (by norm_num)
  rw [inSeconds_refreshDelay hpos]
  linarith

/-- A longer registration is not refreshed earlier, on whichever side of twenty minutes the two
are. -/
theorem inSeconds_refreshDelay_mono {short long : Nat} (hpos : 0 < short) (hle : short ≤ long) :
    (refreshDelay short).inSeconds ≤ (refreshDelay long).inSeconds := by
  have hle' : (short : ℚ) ≤ long := by exact_mod_cast hle
  rw [inSeconds_refreshDelay hpos, inSeconds_refreshDelay (hpos.trans_le hle)]
  rcases min_choice ((short : ℚ) / 2) 600 with hleft | hleft
  · have hhalf := min_le_left ((long : ℚ) / 2) 600
    rw [hleft]
    linarith
  · have hmargin := min_le_right ((long : ℚ) / 2) 600
    rw [hleft]
    linarith

/-- The arming for the refresh of a registration that was granted at some point of time. -/
def refreshAt (granted : Instant) (expiry : Nat) : Arming :=
  ⟨refreshDelay expiry, granted + (refreshDelay expiry).nanoseconds⟩

/-- The refresh comes after the grant, and before the registration lapses. -/
theorem refreshAt_within (granted : Instant) (hpos : 0 < expiry) :
    granted < (refreshAt granted expiry).deadline ∧
      (refreshAt granted expiry).deadline < granted + (Duration.ofSeconds expiry).nanoseconds := by
  have hafter : (Duration.ofSeconds 0).inSeconds < (refreshDelay expiry).inSeconds := by
    rw [Duration.inSeconds_ofSeconds, Nat.cast_zero]
    exact inSeconds_refreshDelay_pos hpos
  have hbefore : (refreshDelay expiry).inSeconds < (Duration.ofSeconds expiry).inSeconds := by
    rw [Duration.inSeconds_ofSeconds]
    exact inSeconds_refreshDelay_lt hpos
  rw [Duration.inSeconds_lt_iff] at hafter hbefore
  exact ⟨Int.lt_add_of_pos_right granted (Int.ofNat_lt.mpr (Nat.zero_lt_of_lt hafter)),
    Int.add_lt_add_left (Int.ofNat_lt.mpr hbefore) granted⟩

/-- Whichever way the timer is started, it waits for the delay of the refresh. -/
theorem pending_armRefresh (now : Instant) (timer : Timer) (hrange : expiry ≤ Text.maxSeconds) :
    (armRefresh now expiry timer).pending = some (refreshAt now expiry) := by
  unfold armRefresh
  split
  · next hshort =>
    simp only [Timer.startScaled, refreshAt, refreshDelay, if_pos hshort]
  · next hlong =>
    have hlong : shortExpiry < expiry := Nat.lt_of_not_ge hlong
    have hpos : 0 < expiry - refreshMargin :=
      Nat.sub_pos_of_lt (Nat.lt_trans (by decide) hlong)
    have hbits : expiry - refreshMargin < 2 ^ 53 :=
      Nat.lt_of_le_of_lt ((Nat.sub_le _ _).trans hrange) (by decide)
    simp only [Timer.start, Timer.startScaled, refreshAt, refreshDelay, if_neg hlong.not_ge,
      Duration.scale_one hpos hbits]

/-- A lifetime that a 200 gives is positive and within the range of seconds, if the one that it is
taken of is. -/
theorem Grant.lifetime?_bounds {own : Option Sip.Address} {response : Sip.Response}
    (h : Grant.lifetime? own response = some expiry) :
    0 < expiry ∧ expiry ≤ Text.maxSeconds := by
  obtain ⟨hgiven, hpos⟩ := Option.filter_eq_some_iff.mp h
  refine ⟨of_decide_eq_true hpos, ?_⟩
  rcases Option.or_eq_some_iff.mp hgiven with hown | ⟨-, hheader⟩
  · obtain ⟨contact, -, hexpires⟩ := Option.bind_eq_some_iff.mp hown
    obtain ⟨value, -, hvalue⟩ := Option.bind_eq_some_iff.mp hexpires
    exact Text.deltaSeconds?_le hvalue
  · obtain ⟨value, -, hvalue⟩ := Option.bind_eq_some_iff.mp hheader
    exact Text.deltaSeconds?_le hvalue

/-! ### The refresh to come -/

namespace Manager

variable {m n : Manager}

/-- An exchange that starts leaves the timer, or stops it. -/
theorem startExchange_timer (m : Manager) (call : CallId) (purpose : Purpose) :
    (m.startExchange call purpose).1.timer = m.timer ∨
      (m.startExchange call purpose).1.timer.pending = none := by
  have hprepared := (m.prepare_prepared purpose).timer
  rw [startExchange_eq]
  rcases (m.prepare purpose).send_cases call purpose with
    ⟨n, _, hlearns, _, heq⟩ | ⟨n, _, _, _, heq⟩
  · rw [heq]
    have htimer := hlearns.timer.trans hprepared
    cases purpose with
    | register => exact .inl htimer
    | unregister => exact .inr (congrArg Timer.pending htimer)
  · rw [heq]
    exact .inr rfl

end Manager

open Manager

/-- A move leaves the timer, or stops it. -/
theorem Move.timer {m n : Manager} {begun : List Origin} {joined : List Waiter} {served : List Turn}
    {effects : List Effect} (hmove : Move m begun joined served n effects) :
    n.timer = m.timer ∨ n.timer.pending = none := by
  cases hmove with
  | arrive | defer | conclude | redeem | proceed | decline | pass => exact .inl rfl
  | fire => exact .inr rfl
  | work first rest work =>
    cases work with
    | stop => exact .inr rfl
    | exchange purpose => exact startExchange_timer _ first.call purpose

/-- So do moves one after another. -/
theorem Moves.timer {m n : Manager} {begun : List Origin} {joined : List Waiter}
    {served : List Turn} {effects : List Effect} (hmoves : Moves m begun joined served n effects) :
    n.timer = m.timer ∨ n.timer.pending = none := by
  induction hmoves with
  | refl => exact .inl rfl
  | cons hmove _ ih =>
    rcases ih with hsame | hstopped
    · rw [hsame]
      exact hmove.timer
    · exact .inr hstopped

namespace Manager

variable {m : Manager} (now : Instant) {event : Event}

/-- Only a grant arms the timer: any other event leaves it, or stops it. -/
theorem timer_step_of_other (hother : ∀ response, event = .replied (.response response) →
      response.status = 200 → m.exchange = none) :
    (m.step now event).1.timer = m.timer ∨ (m.step now event).1.timer.pending = none := by
  by_cases hreply : ∃ reply, event = .replied reply
  · obtain ⟨reply, rfl⟩ := hreply
    change (m.receive now reply).1.timer = _ ∨ (m.receive now reply).1.timer.pending = _
    cases hexchange : m.exchange with
    | none =>
      rw [receive_of_no_exchange now reply hexchange]
      exact .inl rfl
    | some exchange =>
      have hrejected : ∀ response, reply = .response response → response.status ≠ 200 := by
        rintro response rfl hstatus
        cases (hother response rfl hstatus).symm.trans hexchange
      obtain ⟨-, -, htimer⟩ := receive_other now hexchange hrejected
      exact htimer.imp_left And.left
  · exact (m.moves_step now fun reply h => hreply ⟨reply, h⟩).timer

/-- The lifetime of a registration that is granted after a run: what the 200 gives, or else what was
asked for. -/
def lifetimeOf (m : Manager) (history : History) (response : Sip.Response) : Nat :=
  (Grant.ofResponse response m.settings.instanceId m.bound).expiry.getD
    ((m.traffic history).lifetime m.settings.registrationExpiry)

/-- A registration is never granted for no time, nor for more seconds than there can be. -/
theorem lifetimeOf_bounds (m : Manager) (hvalid : m.settings.validate = .ok ())
    (hrange : m.settings.registrationExpiry ≤ Text.maxSeconds) (history : History)
    (response : Sip.Response) :
    0 < m.lifetimeOf history response ∧ m.lifetimeOf history response ≤ Text.maxSeconds := by
  unfold lifetimeOf
  cases hgiven : (Grant.ofResponse response m.settings.instanceId m.bound).expiry with
  | some expiry => exact Grant.lifetime?_bounds hgiven
  | none =>
    exact ⟨Traffic.lifetime_pos (Settings.expiry_pos_of_validate hvalid) _,
      Traffic.lifetime_le hrange _⟩

/-- An arming was made at some point of a run, by a 200 to the REGISTER under way that granted a
lifetime. -/
def Plans (m : Manager) (history : History) (expiry : Nat) (arming : Arming) : Prop :=
  ∃ before granted call response rest,
    history = before ++ (granted, .replied (.response response)) :: rest ∧
      (m.after before).exchange = some ⟨call, .register⟩ ∧ response.status = 200 ∧
        m.lifetimeOf before response = expiry ∧ arming = refreshAt granted expiry

/-- What was planned stays planned. -/
theorem Plans.concat {m : Manager} {history : History} {expiry : Nat} {arming : Arming}
    (h : m.Plans history expiry arming) (entry : Instant × Event) :
    m.Plans (history ++ [entry]) expiry arming := by
  obtain ⟨before, granted, call, response, rest, rfl, hgrant⟩ := h
  exact ⟨before, granted, call, response, rest ++ [entry], by simp, hgrant⟩

/-- **A grant plans the refresh.** What is shown is the lifetime that was granted, and the timer is
armed for the refresh of such a registration. -/
theorem IsNew.plan_of_grant {m : Manager} (hm : m.IsNew)
    (hvalid : m.settings.validate = .ok ())
    (hrange : m.settings.registrationExpiry ≤ Text.maxSeconds) (history : History) (now : Instant)
    {call : CallId} {response : Sip.Response}
    (hexchange : (m.after history).exchange = some ⟨call, .register⟩)
    (hstatus : response.status = 200) :
    let n := ((m.after history).step now (.replied (.response response))).1
    n.info.effectiveExpiry = some (m.lifetimeOf history response) ∧
      n.timer.pending = some (refreshAt now (m.lifetimeOf history response)) := by
  obtain ⟨hsettings, hexpiry⟩ := hm.expiry_after history
  have hlifetime : m.lifetimeOf history response =
      (Grant.ofResponse response (m.after history).settings.instanceId
        (m.after history).bound).expiry.getD (m.after history).expiry := by
    rw [hsettings, (hm.follows_after history).1, hexpiry]
    rfl
  obtain ⟨-, hle⟩ := m.lifetimeOf_bounds hvalid hrange history response
  intro n
  simp only [n, (step_of_grant now hexchange hstatus).1, succeed, tell, takeGrant]
  rw [← hlifetime]
  exact ⟨rfl, pending_armRefresh now _ hle⟩

/-- A refresh that is to come was planned by a grant, for the lifetime that is shown. -/
theorem IsNew.planned_after {m : Manager} (hm : m.IsNew)
    (hvalid : m.settings.validate = .ok ())
    (hrange : m.settings.registrationExpiry ≤ Text.maxSeconds) (history : History) :
    ∀ arming, (m.after history).timer.pending = some arming →
      ∃ expiry, (m.after history).info.effectiveExpiry = some expiry ∧
        m.Plans history expiry arming := by
  have hnil : m.timer.pending = none := by
    obtain ⟨settings, bound, procedure, rfl⟩ := hm
    rfl
  refine after_induction
    (p := fun history n => ∀ arming, n.timer.pending = some arming →
      ∃ expiry, n.info.effectiveExpiry = some expiry ∧ m.Plans history expiry arming)
    m (fun arming harming => by cases hnil.symm.trans harming) ?_ history
  intro history now event ih arming harming
  rcases (m.after history).grant_release_or_other event with
    ⟨call, response, rfl, hstatus, hexchange⟩ |
    ⟨call, deferred, response, rfl, hstatus, hexchange⟩ | hother
  · obtain ⟨hshown, hpending⟩ := hm.plan_of_grant hvalid hrange history now hexchange hstatus
    obtain rfl : refreshAt now (m.lifetimeOf history response) = arming :=
      Option.some.inj (hpending.symm.trans harming)
    exact ⟨_, hshown, history, now, call, response, [], rfl, hexchange, hstatus, rfl, rfl⟩
  · -- A registration that was taken back has no refresh to come.
    rw [(step_of_release now hexchange hstatus).1] at harming
    cases harming
  · obtain ⟨-, hview, -⟩ := step_of_other now hother
    rcases timer_step_of_other now hother with htimer | hstopped
    · rw [htimer] at harming
      obtain ⟨expiry, hshown, hplans⟩ := ih arming harming
      exact ⟨expiry, (congrArg Info.effectiveExpiry hview).trans hshown, hplans.concat _⟩
    · cases hstopped.symm.trans harming

/-- **A refresh falls inside the lifetime, if the own binding is known again.** With settings that
were checked, and that ask for a lifetime of 32 bits, a 200 to a REGISTER at any point of a run
grants a lifetime of at least one second, which is shown, and the timer is armed for the delay of
such a refresh, whichever way it is started. The device takes the binding that is listed for it for
its own exactly if it knows it again among the others; then what is granted is the positive lifetime
of that binding, or else of the response, or else the one that was asked for. A refresh that is to
come after a run was planned by a grant, for the lifetime that is shown: it comes after that grant,
and before the registration lapses. The delay is what is left of the lifetime without half of it, or
ten minutes if that is less; it is positive and shorter than the lifetime, and does not shrink as
that grows. -/
theorem own_lifetime_granted_iff {m : Manager} (hm : m.IsNew)
    (hvalid : m.settings.validate = .ok ())
    (hrange : m.settings.registrationExpiry ≤ Text.maxSeconds) (history : History) :
    (∀ now call (response : Sip.Response),
      (m.after history).exchange = some ⟨call, .register⟩ → response.status = 200 →
        let contacts := Sip.Headers.contacts response.headers
        let own := Grant.listed? m.settings.instanceId contacts
        let given := (own.bind (Sip.Address.expires? .plain)).or
          ((response.headerText? "Expires").bind Text.deltaSeconds?)
        let requested := (m.traffic history).lifetime m.settings.registrationExpiry
        let taken := Grant.ownBinding? m.settings.instanceId contacts
        let n := ((m.after history).step now (.replied (.response response))).1
        (m.after history).expiry = requested ∧
        (∃ expiry, n.info.effectiveExpiry = some expiry ∧ 1 ≤ expiry ∧ expiry ≤ Text.maxSeconds ∧
          n.timer.pending = some
            ⟨refreshDelay expiry, now + (refreshDelay expiry).nanoseconds⟩) ∧
        (taken = own ↔
          ∀ id, m.settings.instanceId = some id → Grant.Recognises id contacts) ∧
        (taken = own → n.info.effectiveExpiry = some ((given.filter (0 < ·)).getD requested))) ∧
    (∀ arming, (m.after history).timer.pending = some arming →
      ∃ expiry granted, (m.after history).info.effectiveExpiry = some expiry ∧ 1 ≤ expiry ∧
        (∃ before call response rest,
          history = before ++ (granted, .replied (.response response)) :: rest ∧
            (m.after before).exchange = some ⟨call, .register⟩ ∧ response.status = 200) ∧
        arming.delay = refreshDelay expiry ∧ granted < arming.deadline ∧
        arming.deadline < granted + (Duration.ofSeconds expiry).nanoseconds) ∧
    (∀ expiry, 1 ≤ expiry →
      (refreshDelay expiry).inSeconds = expiry - min ((expiry : ℚ) / 2) 600 ∧
        0 < (refreshDelay expiry).inSeconds ∧ (refreshDelay expiry).inSeconds < expiry) ∧
    ∀ short long, 1 ≤ short → short ≤ long →
      (refreshDelay short).inSeconds ≤ (refreshDelay long).inSeconds := by
  refine ⟨?_, ?_, ?_, ?_⟩
  · intro now call response hexchange hstatus contacts own given requested taken n
    obtain ⟨hshown, hpending⟩ := hm.plan_of_grant hvalid hrange history now hexchange hstatus
    obtain ⟨hpos, hle⟩ := m.lifetimeOf_bounds hvalid hrange history response
    refine ⟨(hm.expiry_after history).2, ⟨_, hshown, hpos, hle, hpending⟩, ?_, fun htaken => ?_⟩
    · cases hid : m.settings.instanceId with
      | none => simp [taken, own, hid, Grant.ownBinding?, Grant.listed?]
      | some id =>
        simpa [taken, own, hid] using Grant.ownBinding?_eq_listed?_iff id contacts
    · rw [hshown]
      change some (((Grant.lifetime? taken response)).getD requested) = _
      rw [htaken]
      rfl
  · intro arming harming
    obtain ⟨expiry, hshown, before, granted, call, response, rest, hsplit, hexchange, hstatus,
      rfl, rfl⟩ := hm.planned_after hvalid hrange history arming harming
    obtain ⟨hpos, -⟩ := m.lifetimeOf_bounds hvalid hrange before response
    obtain ⟨hafter, hbefore⟩ := refreshAt_within granted hpos
    exact ⟨_, granted, hshown, hpos, ⟨before, call, response, rest, hsplit, hexchange, hstatus⟩,
      rfl, hafter, hbefore⟩
  · exact fun expiry hpos => ⟨inSeconds_refreshDelay hpos, inSeconds_refreshDelay_pos hpos,
      inSeconds_refreshDelay_lt hpos⟩
  · exact fun short long => inSeconds_refreshDelay_mono

/-- A new manager of a device with an id, for the examples. -/
def sampleOf (instanceId : String) : Manager :=
  create { sample.settings with instanceId := some instanceId } sample.bound sample.procedure

/-- In an example, a 200 lists the own binding behind the one of another device, with a lifetime of
ten minutes, and gives an hour to all others. The registration is refreshed after five minutes. -/
theorem refreshed_after_five_minutes_in_sample :
    let id := "<urn:uuid:1>"
    let n := (sampleOf id).after
      [(0, .called 0 .register), (5, .replied (.response (Grant.sampleOk id)))]
    (sampleOf id).settings.validate = .ok () ∧ n.info.effectiveExpiry = some 600 ∧
      ∃ arming, n.timer.pending = some arming ∧ arming.delay.inSeconds = 300 := by
  intro id n
  have hvalid : (sampleOf id).settings.validate = .ok () := by decide +kernel
  have hnew : (sampleOf id).IsNew := ⟨_, _, _, rfl⟩
  obtain ⟨hgrant, -, hdelay, -⟩ :=
    own_lifetime_granted_iff hnew hvalid (by decide +kernel) [(0, .called 0 .register)]
  obtain ⟨-, ⟨expiry, hshown, -, -, hpending⟩, htaken, hgranted⟩ :=
    hgrant 5 0 (Grant.sampleOk id) (by decide +kernel) rfl
  have hbare : Text.IsBare id := (Text.unquote_eq_self_iff id).mp (by decide +kernel)
  have hown := hgranted (htaken.mpr fun other hother => by
    obtain rfl : id = other := Option.some.inj hother
    exact ⟨fun _ => hbare, by decide +kernel⟩)
  have hlisted : Grant.listed? (some id) (Sip.Headers.contacts (Grant.sampleOk id).headers) =
      some (Grant.sampleListed id) := by decide +kernel
  have hseconds : (Grant.sampleListed id).expires? .plain = some 600 := by decide +kernel
  rw [show (sampleOf id).settings.instanceId = some id from rfl, hlisted, Option.bind_some,
    hseconds] at hown
  obtain rfl : expiry = 600 := Option.some.inj (hshown.symm.trans hown)
  refine ⟨hvalid, hown, _, hpending, ?_⟩
  change (refreshDelay 600).inSeconds = 300
  rw [(hdelay 600 (by decide)).1]
  norm_num

/-- But if the id has quotes of its own, the registration is refreshed after fifty minutes, when the
own binding has lapsed long since. -/
theorem refreshed_after_lapse_in_sample :
    let id := "\"<urn:uuid:1>\""
    let n := (sampleOf id).after
      [(0, .called 0 .register), (5, .replied (.response (Grant.sampleOk id)))]
    (sampleOf id).settings.validate = .ok () ∧
      Grant.listed? (some id) (Sip.Headers.contacts (Grant.sampleOk id).headers) =
        some (Grant.sampleListed id) ∧
      (Grant.sampleListed id).expires? .plain = some 600 ∧
      n.info.effectiveExpiry = some 3600 ∧
      n.timer.pending = some ⟨.ofSeconds 3000, 5 + 3000 * 1_000_000_000⟩ := by
  decide +kernel

end Manager

end Registration

end ImsClient
