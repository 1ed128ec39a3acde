import ImsClient.Proofs.Registration.Information
import ImsClient.Proofs.Text.Seconds

/-!
# Seconds that a registrar gives

A registrar gives numbers of seconds in four places: the least lifetime of a 423, the delay of a
rejection, and in a 200 the lifetime of a binding or that of the whole response. A manager holds
what the text at such a place tells, so a number that does not fit 32 bits counts as the largest one
that does, and never as a smaller one. Whatever number of seconds a manager holds after a run is the
configured one, or was given in one of these places.
-/

namespace ImsClient.Registration

open Manager

/-- Where a response to a request gives a number of seconds. -/
inductive Place where
  /-- The least lifetime to ask for, in a 423 to a REGISTER. -/
  | minimum
  /-- How long to wait, in a rejection. -/
  | delay
  /-- The lifetime of the own binding, in a 200 to a REGISTER. -/
  | binding
  /-- The lifetime of bindings that have none of their own, in a 200 to a REGISTER. -/
  | lifetime
deriving DecidableEq

namespace Signal

/-- The text that a client with an instance id reads at a place of a signal. -/
def text? (instanceId : Option String) (place : Place) : Signal → Option String
  | heard purpose (.response response) =>
    match place, purpose with
    | .minimum, .register =>
      if response.status = 423 then response.headerText? "Min-Expires" else none
    | .delay, _ =>
      if isRetried response.status then response.headerText? "Retry-After" else none
    | .binding, .register =>
      if response.status = 200 then
        (Grant.ownBinding? instanceId (Sip.Headers.contacts response.headers)).bind
          (·.param? .plain "expires")
      else none
    | .lifetime, .register =>
      if response.status = 200 then response.headerText? "Expires" else none
    | _, .unregister _ => none
  | _ => none

/-- A signal gives so many seconds at a place: what the text there tells, if that is positive. -/
def Gives (instanceId : Option String) (place : Place) (signal : Signal) (seconds : Nat) : Prop :=
  0 < seconds ∧ ∃ value, signal.text? instanceId place = some value ∧ Text.Tells value seconds

variable {instanceId : Option String} {place : Place} {signal : Signal} {seconds : Nat}

/-- What is given is what is read of the text. -/
theorem gives_iff : signal.Gives instanceId place seconds ↔
    (signal.text? instanceId place).bind Text.positiveSeconds? = some seconds := by
  simp only [Option.bind_eq_some_iff, Text.positiveSeconds?_eq_some_iff, Gives]
  constructor
  · rintro ⟨hpos, value, htext, htells⟩
    exact ⟨value, htext, htells, hpos⟩
  · rintro ⟨value, htext, htells, hpos⟩
    exact ⟨hpos, value, htext, htells⟩

/-- The least lifetime that a signal asks for is the one that it gives. -/
theorem minimum?_eq_some_iff (instanceId : Option String) :
    signal.minimum? = some seconds ↔ signal.Gives instanceId .minimum seconds := by
  rw [gives_iff]
  cases signal with
  | sent purpose request => simp [minimum?, text?]
  | heard purpose reply =>
    cases reply with
    | failure | none => cases purpose <;> simp [minimum?, text?]
    | response response =>
      cases purpose with
      | unregister => simp [minimum?, text?]
      | register =>
        simp only [minimum?, text?, seconds?]
        split <;> simp

/-- The delay that a reply asks for is the one that it gives. -/
theorem delay?_eq_some_iff (instanceId : Option String) (purpose : Purpose) {reply : Reply} :
    reply.delay? = some seconds ↔ (heard purpose reply).Gives instanceId .delay seconds := by
  rw [gives_iff]
  cases reply with
  | failure | none => simp [Reply.delay?, text?]
  | response response =>
    simp only [Reply.delay?, text?, seconds?]
    split <;> simp

/-- A lifetime is read of a 200 to a REGISTER only. -/
theorem grant_of_text? {purpose : Purpose} {reply : Reply} {value : String}
    (hplace : place = .binding ∨ place = .lifetime)
    (htext : (heard purpose reply).text? instanceId place = some value) :
    purpose = .register ∧ ∃ response, reply = .response response ∧ response.status = 200 := by
  cases reply with
  | failure | none => cases htext
  | response response =>
    cases purpose with
    | unregister => rcases hplace with rfl | rfl <;> cases htext
    | register =>
      refine ⟨rfl, response, rfl, ?_⟩
      rcases hplace with rfl | rfl
      · exact (Option.ite_none_right_eq_some.mp htext).1
      · exact (Option.ite_none_right_eq_some.mp htext).1

end Signal

/-- The lifetime that a 200 gives is that of the own binding, or that of the response if the text of
the binding tells no number. -/
theorem Grant.lifetime?_eq_some_iff {instanceId : Option String} {response : Sip.Response}
    {seconds : Nat} (hstatus : response.status = 200) :
    let own := ownBinding? instanceId (Sip.Headers.contacts response.headers)
    let signal := Signal.heard .register (.response response)
    lifetime? own response = some seconds ↔
      signal.Gives instanceId .binding seconds ∨
        (∀ value, signal.text? instanceId .binding = some value →
          Text.deltaSeconds? value = none) ∧
        signal.Gives instanceId .lifetime seconds := by
  intro own signal
  have hbinding : signal.text? instanceId .binding = own.bind (·.param? .plain "expires") :=
    if_pos hstatus
  have hlifetime : signal.text? instanceId .lifetime = response.headerText? "Expires" :=
    if_pos hstatus
  have hown : own.bind (Sip.Address.expires? .plain) =
      (own.bind (·.param? .plain "expires")).bind Text.deltaSeconds? :=
    (Option.bind_assoc own _ _).symm
  have hfilter (text : Option String) :
      (text.bind Text.deltaSeconds?).filter (0 < ·) = text.bind Text.positiveSeconds? := by
    cases text <;> rfl
  simp only [lifetime?, hown, Signal.gives_iff, hbinding, hlifetime]
  generalize own.bind (·.param? .plain "expires") = text
  rw [← hfilter, ← hfilter]
  cases hread : text.bind Text.deltaSeconds? with
  | none =>
    have hnone : ∀ value, text = some value → Text.deltaSeconds? value = none := by
      rintro value rfl
      exact hread
    rw [Option.none_or]
    exact ⟨fun hheader => .inr ⟨hnone, hheader⟩, fun h => h.elim (nomatch ·) And.right⟩
  | some number =>
    -- A binding with a number of its own leaves no room for that of the response.
    obtain ⟨value, htext, hvalue⟩ := Option.bind_eq_some_iff.mp hread
    have hsome : ¬ ∀ value, text = some value → Text.deltaSeconds? value = none := by
      intro hnone
      cases hvalue.symm.trans (hnone value htext)
    simp only [Option.some_or, hsome, false_and, or_false]

namespace Manager

variable {m : Manager} (now : Instant) {seconds : Nat}

/-! ### What a reply gives is held -/

/-- A 423 that asks for a lifetime is followed. -/
theorem expiry_of_minimum {exchange : Exchange} {reply : Reply}
    (hexchange : m.exchange = some exchange)
    (hgiven : (Signal.heard exchange.purpose reply).minimum? = some seconds) :
    (m.receive now reply).1.expiry = seconds := by
  obtain ⟨call, purpose⟩ := exchange
  cases purpose with
  | unregister => cases hgiven
  | register =>
    cases reply with
    | failure | none => cases hgiven
    | response response =>
      simp only [Signal.minimum?, Option.ite_none_right_eq_some, seconds?] at hgiven
      obtain ⟨hstatus, hseconds⟩ := hgiven
      simp only [receive, hexchange, judgeReply, judge, hstatus, adoptMinimum, hseconds]
      exact (send_keeps _ call .register).2

/-- A rejection that asks for a delay is remembered. -/
theorem retryAfter_of_delay {exchange : Exchange} {reply : Reply}
    (hexchange : m.exchange = some exchange) (hgiven : reply.delay? = some seconds) :
    (m.receive now reply).1.info.retryAfter = some seconds := by
  have hother : ∀ response, reply = .response response → response.status ≠ 200 := by
    rintro response rfl hstatus
    simp [Reply.delay?, hstatus, isRetried] at hgiven
  obtain ⟨-, hinfo, -⟩ := receive_other now hexchange hother
  rw [hinfo, hgiven]
  rfl

/-- The lifetime of a grant is shown. -/
theorem effectiveExpiry_of_grant {call : CallId} {response : Sip.Response}
    (hexchange : m.exchange = some ⟨call, .register⟩) (hstatus : response.status = 200) :
    (m.step now (.replied (.response response))).1.info.effectiveExpiry =
      some ((Grant.ofResponse response m.settings.instanceId m.bound).expiry.getD m.expiry) := by
  rw [(step_of_grant now hexchange hstatus).1]
  rfl

/-- A lifetime that is given is shown. -/
theorem effectiveExpiry_of_given {exchange : Exchange} {reply : Reply}
    (hexchange : m.exchange = some exchange)
    (hgiven : (Signal.heard exchange.purpose reply).Gives m.settings.instanceId .binding seconds ∨
      (∀ value, (Signal.heard exchange.purpose reply).text? m.settings.instanceId .binding =
        some value → Text.deltaSeconds? value = none) ∧
      (Signal.heard exchange.purpose reply).Gives m.settings.instanceId .lifetime seconds) :
    (m.receive now reply).1.info.effectiveExpiry = some seconds := by
  obtain ⟨call, purpose⟩ := exchange
  have hgrant : purpose = .register ∧
      ∃ response, reply = .response response ∧ response.status = 200 := by
    rcases hgiven with ⟨-, value, htext, -⟩ | ⟨-, -, value, htext, -⟩
    · exact Signal.grant_of_text? (.inl rfl) htext
    · exact Signal.grant_of_text? (.inr rfl) htext
  obtain ⟨rfl, response, rfl, hstatus⟩ := hgrant
  have hexpiry : (Grant.ofResponse response m.settings.instanceId m.bound).expiry = some seconds :=
    (Grant.lifetime?_eq_some_iff hstatus).mpr hgiven
  have hshown := effectiveExpiry_of_grant now hexchange hstatus
  rw [hexpiry] at hshown
  exact hshown

/-! ### What is held was given -/

/-- The delay that is held after an event was held before, or the event gives it. -/
theorem retryAfter_step (m : Manager) (instanceId : Option String) (event : Event)
    (hheld : (m.step now event).1.info.retryAfter = some seconds) :
    m.info.retryAfter = some seconds ∨
      ∃ signal ∈ m.signals now event, signal.Gives instanceId .delay seconds := by
  rcases m.grant_release_or_other event with
    ⟨call, response, rfl, hstatus, hexchange⟩ |
    ⟨call, deferred, response, rfl, hstatus, hexchange⟩ | hother
  · -- A grant clears the delay.
    rw [(step_of_grant now hexchange hstatus).1] at hheld
    cases hheld
  · rw [(step_of_release now hexchange hstatus).1] at hheld
    exact .inl hheld
  by_cases hreply : ∃ reply, event = .replied reply
  · obtain ⟨reply, rfl⟩ := hreply
    change (m.receive now reply).1.info.retryAfter = some seconds at hheld
    cases hexchange : m.exchange with
    | none =>
      rw [receive_of_no_exchange now reply hexchange] at hheld
      exact .inl hheld
    | some exchange =>
      have hrejected : ∀ response, reply = .response response → response.status ≠ 200 := by
        rintro response rfl hstatus
        cases (hother response rfl hstatus).symm.trans hexchange
      obtain ⟨-, hinfo, -⟩ := receive_other now hexchange hrejected
      rw [hinfo] at hheld
      rcases Option.or_eq_some_iff.mp hheld with hgiven | ⟨-, hbefore⟩
      · refine .inr ⟨.heard exchange.purpose reply, ?_,
          (Signal.delay?_eq_some_iff instanceId exchange.purpose).mp hgiven⟩
        rw [signals_replied now reply hexchange]
        exact List.mem_cons_self
      · exact .inl hbefore
  · rw [(m.moves_step now fun reply h => hreply ⟨reply, h⟩).info.2] at hheld
    exact .inl hheld

/-- The lifetime that is shown after an event was shown before, or it was the one to ask for, or the
event gives it. -/
theorem effectiveExpiry_step (m : Manager) (event : Event)
    (hshown : (m.step now event).1.info.effectiveExpiry = some seconds) :
    m.info.effectiveExpiry = some seconds ∨ m.expiry = seconds ∨
      ∃ signal ∈ m.signals now event,
        signal.Gives m.settings.instanceId .binding seconds ∨
          signal.Gives m.settings.instanceId .lifetime seconds := by
  rcases m.grant_release_or_other event with
    ⟨call, response, rfl, hstatus, hexchange⟩ |
    ⟨call, deferred, response, rfl, hstatus, hexchange⟩ | hother
  · rw [effectiveExpiry_of_grant now hexchange hstatus, Option.some.injEq] at hshown
    cases hgrant : (Grant.ofResponse response m.settings.instanceId m.bound).expiry with
    | none =>
      rw [hgrant] at hshown
      exact .inr (.inl hshown)
    | some granted =>
      rw [hgrant] at hshown
      obtain rfl : granted = seconds := hshown
      refine .inr (.inr ⟨.heard .register (.response response), ?_,
        ((Grant.lifetime?_eq_some_iff hstatus).mp hgrant).imp_right And.right⟩)
      rw [(step_of_grant now hexchange hstatus).2]
      exact List.mem_cons_self
  · rw [(step_of_release now hexchange hstatus).1] at hshown
    cases hshown
  · have hview := (step_of_other now hother).2.1
    exact .inl ((congrArg Info.effectiveExpiry hview).symm.trans hshown)

end Manager

/-- Some traffic gave so many seconds at a place. -/
def Traffic.Gave (instanceId : Option String) (traffic : Traffic) (place : Place) (seconds : Nat) :
    Prop :=
  ∃ signal ∈ traffic, signal.Gives instanceId place seconds

/-- What was given before was given before something more. -/
theorem Traffic.Gave.append {instanceId : Option String} {traffic : Traffic} {place : Place}
    {seconds : Nat} (h : traffic.Gave instanceId place seconds) (more : Traffic) :
    (traffic ++ more).Gave instanceId place seconds :=
  h.imp fun _ => And.imp_left (List.mem_append_left more)

namespace Manager

variable {m : Manager} {seconds : Nat}

/-- The lifetime to ask for is the configured one, or a least lifetime that was given. -/
theorem IsNew.expiry_given (hm : m.IsNew) (instanceId : Option String) (history : History) :
    (m.after history).expiry = m.settings.registrationExpiry ∨
      (m.traffic history).Gave instanceId .minimum (m.after history).expiry := by
  rw [(hm.expiry_after history).2]
  refine (Traffic.latest_eq_or_exists _ _ _).imp_right fun ⟨signal, hmem, hobserved⟩ => ?_
  exact ⟨signal, hmem, (Signal.minimum?_eq_some_iff instanceId).mp hobserved⟩

/-- A delay that is held was given. -/
theorem IsNew.retryAfter_given (hm : m.IsNew) (instanceId : Option String) (history : History) :
    ∀ seconds, (m.after history).info.retryAfter = some seconds →
      (m.traffic history).Gave instanceId .delay seconds := by
  have hnil : m.info.retryAfter = none := by
    obtain ⟨settings, bound, procedure, rfl⟩ := hm
    rfl
  refine after_induction
    (p := fun history n => ∀ seconds, n.info.retryAfter = some seconds →
      (m.traffic history).Gave instanceId .delay seconds)
    m (fun seconds hheld => by cases hnil.symm.trans hheld) ?_ history
  intro history now event ih seconds hheld
  rw [traffic, along_concat]
  rcases retryAfter_step now (m.after history) instanceId event hheld with
    hbefore | ⟨signal, hmem, hgives⟩
  · exact (ih seconds hbefore).append _
  · exact ⟨signal, List.mem_append_right _ hmem, hgives⟩

/-- A lifetime that is shown is the configured one, or was given. -/
theorem IsNew.effectiveExpiry_given (hm : m.IsNew) (history : History) :
    ∀ seconds, (m.after history).info.effectiveExpiry = some seconds →
      seconds = m.settings.registrationExpiry ∨
        ∃ place, place ≠ .delay ∧
          (m.traffic history).Gave m.settings.instanceId place seconds := by
  have hnil : m.info.effectiveExpiry = none := by
    obtain ⟨settings, bound, procedure, rfl⟩ := hm
    rfl
  refine after_induction
    (p := fun history n => ∀ seconds, n.info.effectiveExpiry = some seconds →
      seconds = m.settings.registrationExpiry ∨
        ∃ place, place ≠ .delay ∧ (m.traffic history).Gave m.settings.instanceId place seconds)
    m (fun seconds hshown => by cases hnil.symm.trans hshown) ?_ history
  intro history now event ih seconds hshown
  have hsettings := (hm.expiry_after history).1
  rw [traffic, along_concat]
  rcases effectiveExpiry_step now (m.after history) event hshown with
    hbefore | rfl | ⟨signal, hmem, hgives⟩
  · rcases ih seconds hbefore with hconfigured | ⟨place, hplace, hgave⟩
    · exact .inl hconfigured
    · exact .inr ⟨place, hplace, hgave.append _⟩
  · exact (hm.expiry_given m.settings.instanceId history).imp_right fun hgave =>
      ⟨.minimum, by decide, hgave.append _⟩
  · rw [hsettings] at hgives
    rcases hgives with hbinding | hlifetime
    · exact .inr ⟨.binding, by decide, signal, List.mem_append_right _ hmem, hbinding⟩
    · exact .inr ⟨.lifetime, by decide, signal, List.mem_append_right _ hmem, hlifetime⟩

/-- **No number of seconds wraps.** Nothing is read of a value exactly if it does not start with a
digit, after white space; of any other value the number at its head is read, as its digits write it
by their places, whatever their count and however many zeros lead them, or the largest number of 32
bits in place of a larger one. What stands behind it does not count, unless it goes on with a digit.

So it is wherever a registrar gives a number of seconds. A manager with an exchange under way holds
the number that a reply gives: the least lifetime of a 423, the delay of a rejection, the lifetime
of its own binding, or that of the response if the text of its binding tells no number. And whatever
number of seconds a new manager holds after a run was given in one of these places, or is the
configured lifetime. -/
theorem seconds_saturate :
    (∀ value : String,
      (Text.deltaSeconds? value = none ↔
        ∀ c, (Text.trim value).toList.head? = some c → c.isDigit = false) ∧
      (∀ seconds, Text.deltaSeconds? value = some seconds ↔
        ∃ heading : Text.Heading value, seconds = min heading.number (2 ^ 32 - 1)) ∧
      ∀ more : String, (Text.deltaSeconds? value).isSome = true →
        (∀ c, more.toList.head? = some c → c.isDigit = false) →
          Text.deltaSeconds? (value ++ more) = Text.deltaSeconds? value) ∧
    (∀ (m : Manager) (now : Instant) (exchange : Exchange) (reply : Reply),
      m.exchange = some exchange →
        let n := (m.step now (.replied reply)).1
        let signal := Signal.heard exchange.purpose reply
        let gives := signal.Gives m.settings.instanceId
        (∀ seconds, gives .minimum seconds → n.expiry = seconds) ∧
        (∀ seconds, gives .delay seconds → n.info.retryAfter = some seconds) ∧
        (∀ seconds, gives .binding seconds → n.info.effectiveExpiry = some seconds) ∧
        ∀ seconds, gives .lifetime seconds →
          (∀ value, signal.text? m.settings.instanceId .binding = some value →
            Text.deltaSeconds? value = none) →
          n.info.effectiveExpiry = some seconds) ∧
    ∀ m : Manager, m.IsNew → ∀ history : History,
      let n := m.after history
      let gave := (m.traffic history).Gave m.settings.instanceId
      (n.expiry = m.settings.registrationExpiry ∨ gave .minimum n.expiry) ∧
      (∀ seconds, n.info.retryAfter = some seconds → gave .delay seconds) ∧
      ∀ seconds, n.info.effectiveExpiry = some seconds →
        seconds = m.settings.registrationExpiry ∨ ∃ place, place ≠ .delay ∧ gave place seconds := by
  refine ⟨fun value => ?_, ?_, ?_⟩
  · exact ⟨Text.deltaSeconds?_eq_none_iff value, fun _ => Text.deltaSeconds?_eq_some_iff,
      fun _ => Text.deltaSeconds?_append⟩
  · intro m now exchange reply hexchange n signal gives
    refine ⟨?_, ?_, ?_, ?_⟩
    · intro seconds hgives
      exact expiry_of_minimum now hexchange ((Signal.minimum?_eq_some_iff _).mpr hgives)
    · intro seconds hgives
      exact retryAfter_of_delay now hexchange ((Signal.delay?_eq_some_iff _ _).mpr hgives)
    · intro seconds hgives
      exact effectiveExpiry_of_given now hexchange (.inl hgives)
    · intro seconds hgives hbinding
      exact effectiveExpiry_of_given now hexchange (.inr ⟨hbinding, hgives⟩)
  · intro m hm history n gave
    exact ⟨hm.expiry_given _ history, hm.retryAfter_given _ history,
      hm.effectiveExpiry_given history⟩

/-- A 423 for an example, which asks for more seconds than 32 bits hold. -/
def sampleLongMinimum : Sip.Response :=
  { status := 423, headers := [.raw "Min-Expires" "\t004294967301 (long)"] }

/-- The number in it, which two zeros lead. -/
def sampleHeading : Text.Heading "004294967301" where
  blanks := []
  digits := "004294967301".toList
  rest := []
  toList_eq := rfl
  isBlank_of_mem := by simp
  isDigit_of_mem := List.all_eq_true.mp (by decide +kernel)
  digits_ne_nil := by decide +kernel
  isDigit_head_rest := by simp

/-- In an example, the registrar asks for six seconds more than 32 bits hold, after two zeros and
before a comment. The manager then asks for the longest lifetime that there is, not for one of five
seconds. -/
theorem long_minimum_saturates_in_sample :
    let n := sample.after [(0, .called 0 .register)]
    let answered := (n.step 1 (.replied (.response sampleLongMinimum))).1
    Text.deltaSeconds? "004294967301" = some (2 ^ 32 - 1) ∧
      Text.deltaSeconds? ("004294967301" ++ " (long)") = some (2 ^ 32 - 1) ∧
      n.exchange = some ⟨0, .register⟩ ∧ answered.expiry = 2 ^ 32 - 1 ∧
      (sample.traffic [(0, .called 0 .register),
        (1, .replied (.response sampleLongMinimum))]).Gave none .minimum answered.expiry := by
  intro n answered
  obtain ⟨hvalues, hreplies, hruns⟩ := seconds_saturate
  obtain ⟨-, htold, hmore⟩ := hvalues "004294967301"
  have hread : Text.deltaSeconds? "004294967301" = some (2 ^ 32 - 1) :=
    (htold _).mpr ⟨sampleHeading, by decide +kernel⟩
  have hcomment : ∀ c, " (long)".toList.head? = some c → c.isDigit = false := by
    intro c hc
    obtain rfl : ' ' = c := Option.some.inj hc
    rfl
  have hlonger : Text.deltaSeconds? ("004294967301" ++ " (long)") = some (2 ^ 32 - 1) :=
    (hmore " (long)" (by rw [hread]; rfl) hcomment).trans hread
  have hgives : (Signal.heard .register (.response sampleLongMinimum)).Gives none .minimum
      (2 ^ 32 - 1) :=
    ⟨by decide, "004294967301" ++ " (long)", by decide +kernel,
      ((hvalues _).2.1 _).mp hlonger⟩
  have hexchange : n.exchange = some ⟨0, .register⟩ := by decide +kernel
  have hadopted : answered.expiry = 2 ^ 32 - 1 := (hreplies n 1 _ _ hexchange).1 _ hgives
  refine ⟨hread, hlonger, hexchange, hadopted, ?_⟩
  refine (hruns sample sample_isNew _).1.resolve_left fun hconfigured => ?_
  cases hconfigured.symm.trans hadopted

end Manager

end ImsClient.Registration
