import ImsClient.Proofs.Registration.Wire

/-!
# What the network told

What a manager shows of its registration is what the latest grant told. Only two replies
write it: a 200 to a REGISTER writes all of it, and a 200 to an un-REGISTER takes back the
verdict on NAT and the lifetime. Every other reply leaves it as it is, but for the delay
that a rejection asks for, and between two replies nothing of it changes.
-/

namespace ImsClient.Registration

open Manager

namespace Info

/-- What a grant tells, with the lifetime by which the refresh is planned. -/
def ofGrant (grant : Grant) (expiry : Nat) : Info :=
  { associatedUris := grant.associatedUris
    publicGruu := grant.publicGruu
    tempGruu := grant.tempGruu
    serviceRoute := grant.serviceRoute
    nat := grant.nat
    effectiveExpiry := some expiry }

/-- What is left of it when the binding is taken back. -/
def released (info : Info) : Info := { info with nat := {}, effectiveExpiry := none }

/-- All of it but the delay that a failure asked for. -/
def view (info : Info) : Info := { info with retryAfter := none }

end Info

/-- The delay that a reply asks for, in seconds: that of a rejection after which an attempt would be
made again. -/
def Reply.delay? : Reply → Option Nat
  | response r => if isRetried r.status then seconds? r "Retry-After" else Option.none
  | _ => Option.none

namespace Signal

/-- Whether a signal is a 200 to a REGISTER that is no un-REGISTER. -/
def isGrant : Signal → Bool
  | heard .register (.response response) => response.status = 200
  | _ => false

/-- Whether a signal is a 200 to an un-REGISTER. -/
def isRelease : Signal → Bool
  | heard (.unregister _) (.response response) => response.status = 200
  | _ => false

end Signal

namespace Manager

variable {m n : Manager} (now : Instant) {reply : Reply}

/-! ### Replies -/

/-- A reply other than a 200 tells at most for how long to wait. -/
theorem judgeReply_info (m : Manager) (now : Instant) (purpose : Purpose)
    (hother : ∀ response, reply = .response response → response.status ≠ 200) :
    (m.judgeReply now purpose reply).1.info =
      { m.info with retryAfter := reply.delay?.or m.info.retryAfter } := by
  cases reply with
  | failure error => rfl
  | none => rfl
  | response response =>
    simp only [judgeReply]
    unfold judge
    split
    · next hstatus => exact absurd hstatus (hother response rfl)
    · next hstatus =>
      simp only [Reply.delay?, hstatus, redirect]
      split <;> rfl
    · next hstatus =>
      simp only [Reply.delay?, hstatus, answerChallenge]
      split
      · rfl
      · split <;> rfl
    · next hstatus =>
      simp only [Reply.delay?, hstatus, adoptMinimum]
      split
      · rfl
      · split <;> rfl
    · split
      · next hretried =>
        simp only [Reply.delay?, hretried, if_true, seconds?, retry]
        split
        · next hdelay => rw [hdelay]; rfl
        · next hdelay =>
          rw [hdelay]
          split <;> rfl
      · next hretried =>
        simp only [Reply.delay?, hretried]
        rfl

/-- To send a request tells nothing and leaves the lifetime to ask for, also if there is none to
send. -/
theorem send_keeps (m : Manager) (call : CallId) (purpose : Purpose) :
    (m.send call purpose).1.info = m.info ∧ (m.send call purpose).1.expiry = m.expiry := by
  obtain ⟨procedure, supply, huses⟩ := m.compose_uses purpose
  rcases hcompose : m.compose purpose with ⟨composed, n⟩
  rw [hcompose] at huses
  dsimp only at huses
  subst huses
  simp only [send, hcompose]
  cases composed <;> exact ⟨rfl, rfl⟩

/-- What is known after a reply is what the reply made of it. -/
theorem receive_info {exchange : Exchange} (hexchange : m.exchange = some exchange) :
    (m.receive now reply).1.info = (m.judgeReply now exchange.purpose reply).1.info := by
  obtain ⟨call, purpose⟩ := exchange
  rcases hjudge : m.judgeReply now purpose reply with ⟨n, verdict⟩
  simp only [receive, hexchange, hjudge]
  cases verdict with
  | resend => exact (send_keeps _ call purpose).1
  | done => cases purpose <;> rfl
  | fail error => rfl

/-- How a reply other than a 200 leaves a manager: bound where it was, told at most for how long to
wait, and either with the same timer in the same exchange or without a refresh to come. -/
theorem receive_other {exchange : Exchange} (hexchange : m.exchange = some exchange)
    (hother : ∀ response, reply = .response response → response.status ≠ 200) :
    (m.receive now reply).1.bound = m.bound ∧
      (m.receive now reply).1.info =
        { m.info with retryAfter := reply.delay?.or m.info.retryAfter } ∧
      ((m.receive now reply).1.timer = m.timer ∧ (m.receive now reply).1.exchange = m.exchange ∨
        (m.receive now reply).1.timer.pending = none) := by
  have hinfo := (receive_info now hexchange).trans
    (m.judgeReply_info now exchange.purpose hother)
  rcases m.receive_cases now reply hexchange with
    ⟨n, request, hlearns, heq⟩ | ⟨n, error, hlearns, heq⟩ | ⟨response, hreply, hstatus, _⟩
  · rw [heq] at hinfo ⊢
    exact ⟨hlearns.bound, hinfo, .inl ⟨hlearns.timer, hlearns.exchange⟩⟩
  · rw [heq] at hinfo ⊢
    exact ⟨hlearns.bound, hinfo, .inr rfl⟩
  · exact absurd hstatus (hother response hreply)

/-! ### Between replies -/

/-- An exchange that starts tells nothing. -/
theorem startExchange_info (m : Manager) (call : CallId) (purpose : Purpose) :
    (m.startExchange call purpose).1.bound = m.bound ∧
      (m.startExchange call purpose).1.info = m.info := by
  have hprepared := m.prepare_prepared purpose
  have hinfo : (m.prepare purpose).info = m.info := by
    cases purpose with
    | unregister => rfl
    | register =>
      simp only [prepare, prepareDialog]
      split <;> rfl
  rw [startExchange_eq]
  refine ⟨?_, (send_keeps _ call purpose).1.trans hinfo⟩
  rcases (m.prepare purpose).send_cases call purpose with
    ⟨n, _, hlearns, _, heq⟩ | ⟨n, _, hlearns, _, heq⟩
  · rw [heq]
    exact hlearns.bound.trans hprepared.bound
  · rw [heq]
    exact hlearns.bound.trans hprepared.bound

end Manager

/-- A move leaves a manager bound where it was, and tells nothing. -/
theorem Move.info {m n : Manager} {begun : List Origin} {joined : List Waiter} {served : List Turn}
    {effects : List Effect} (hmove : Move m begun joined served n effects) :
    n.bound = m.bound ∧ n.info = m.info := by
  cases hmove with
  | arrive | fire | defer | conclude | redeem | proceed | decline | pass => exact ⟨rfl, rfl⟩
  | work first rest work =>
    cases work with
    | stop => exact ⟨rfl, rfl⟩
    | exchange purpose => exact startExchange_info _ first.call purpose

/-- Nor do moves one after another tell anything. -/
theorem Moves.info {m n : Manager} {begun : List Origin} {joined : List Waiter}
    {served : List Turn} {effects : List Effect} (hmoves : Moves m begun joined served n effects) :
    n.bound = m.bound ∧ n.info = m.info := by
  induction hmoves with
  | refl => exact ⟨rfl, rfl⟩
  | cons hmove _ ih => exact ⟨ih.1.trans hmove.info.1, ih.2.trans hmove.info.2⟩

/-! ### The latest grant -/

/-- What is told by a grant after some traffic: a lifetime that it does not give is the one that was
asked for. -/
def Info.granted (settings : Settings) (bound : Endpoint) (before : Traffic)
    (response : Sip.Response) : Info :=
  let grant := Grant.ofResponse response settings.instanceId bound
  .ofGrant grant (grant.expiry.getD (before.lifetime settings.registrationExpiry))

/-- What is left of what was told after some traffic without a grant. -/
def Info.lasting (since : Traffic) (info : Info) : Info :=
  if since.any Signal.isRelease then info.released else info

/-- What a manager shows is what the latest grant of some traffic told, and nothing before the first
one. -/
structure Info.Follows (info : Info) (settings : Settings) (bound : Endpoint) (traffic : Traffic) :
    Prop where
  untold : (∀ signal ∈ traffic, signal.isGrant = false) → info.view = {}
  latest : ∀ before response since,
    traffic = before ++ .heard .register (.response response) :: since → response.status = 200 →
    (∀ signal ∈ since, signal.isGrant = false) →
      info.view = (Info.granted settings bound before response).lasting since

namespace Info.Follows

variable {info info' : Info} {settings : Settings} {bound : Endpoint} {traffic : Traffic}

/-- Nothing was told at first. -/
theorem nil : Info.Follows {} settings bound [] where
  untold _ := rfl
  latest before response since hsplit := by simp at hsplit

/-- A signal that is no grant leaves what is shown, or what is left of it if the signal is a
release. -/
theorem concat (h : info.Follows settings bound traffic) {signal : Signal}
    (hgrant : signal.isGrant = false) (hview : info'.view = info.view.lasting [signal]) :
    info'.Follows settings bound (traffic ++ [signal]) where
  untold hnone := by
    rw [hview, h.untold fun other hother => hnone other (List.mem_append_left _ hother)]
    unfold lasting
    split <;> rfl
  latest before response since hsplit hstatus hsince := by
    rcases split_concat hsplit with ⟨-, -, rfl⟩ | ⟨rest, rfl, hwhole⟩
    · simp [Signal.isGrant, hstatus] at hgrant
    · have hrest := h.latest before response rest hwhole hstatus
        fun other hother => hsince other (List.mem_append_left _ hother)
      rw [hview, hrest]
      simp only [lasting, List.any_append]
      cases rest.any Signal.isRelease <;> cases [signal].any Signal.isRelease <;> rfl

/-- Signals that are neither grants nor releases leave what is shown. -/
theorem append (h : info.Follows settings bound traffic) {signals : Traffic}
    (hsilent : ∀ signal ∈ signals, signal.isGrant = false ∧ signal.isRelease = false)
    (hview : info'.view = info.view) : info'.Follows settings bound (traffic ++ signals) := by
  induction signals generalizing traffic info with
  | nil =>
    rw [List.append_nil]
    constructor
    · intro hnone
      exact hview.trans (h.untold hnone)
    · intro before response since hsplit hstatus hsince
      exact hview.trans (h.latest before response since hsplit hstatus hsince)
  | cons signal signals ih =>
    obtain ⟨hfirst, hrest⟩ := List.forall_mem_cons.mp hsilent
    rw [List.append_cons]
    refine ih (h.concat hfirst.1 ?_) hrest hview
    simp [lasting, hfirst.2]

/-- A grant tells all anew. -/
theorem grant {response : Sip.Response} (hstatus : response.status = 200)
    (hview : info'.view = Info.granted settings bound traffic response) :
    info'.Follows settings bound (traffic ++ [.heard .register (.response response)]) where
  untold hnone := by
    have hgrant := hnone _ (List.mem_append_right _ (List.mem_singleton_self _))
    simp [Signal.isGrant, hstatus] at hgrant
  latest before other since hsplit hother hsince := by
    rcases split_concat hsplit with ⟨rfl, rfl, heq⟩ | ⟨rest, rfl, -⟩
    · cases heq
      exact hview
    · have hgrant := hsince _ (List.mem_append_right _ (List.mem_singleton_self _))
      simp [Signal.isGrant, hstatus] at hgrant

end Info.Follows

namespace Manager

variable {m : Manager} (now : Instant) {event : Event}

/-- Whatever is sent is neither a grant nor a release. -/
theorem silent_of_mem_sends {effects : List Effect} {signal : Signal}
    (hsignal : signal ∈ m.sends effects) : signal.isGrant = false ∧ signal.isRelease = false := by
  unfold sends at hsignal
  split at hsignal
  · obtain ⟨request, _, rfl⟩ := List.mem_map.mp hsignal
    exact ⟨rfl, rfl⟩
  · cases hsignal

/-- **Only a 200 tells anything.** On any other event a manager stays bound where it is and shows
what it showed, and no grant or release is heard. -/
theorem step_of_other (hother : ∀ response, event = .replied (.response response) →
      response.status = 200 → m.exchange = none) :
    (m.step now event).1.bound = m.bound ∧ (m.step now event).1.info.view = m.info.view ∧
      ∀ signal ∈ m.signals now event, signal.isGrant = false ∧ signal.isRelease = false := by
  by_cases hreply : ∃ reply, event = .replied reply
  · obtain ⟨reply, rfl⟩ := hreply
    change (m.receive now reply).1.bound = _ ∧ (m.receive now reply).1.info.view = _ ∧ _
    cases hexchange : m.exchange with
    | none =>
      rw [signals_of_no_exchange now reply hexchange, receive_of_no_exchange now reply hexchange]
      exact ⟨rfl, rfl, by simp⟩
    | some exchange =>
      have hrejected : ∀ response, reply = .response response → response.status ≠ 200 := by
        rintro response rfl hstatus
        cases (hother response rfl hstatus).symm.trans hexchange
      obtain ⟨hbound, hinfo, _⟩ := receive_other now hexchange hrejected
      refine ⟨hbound, by rw [hinfo]; rfl, ?_⟩
      rw [signals_replied now reply hexchange]
      refine List.forall_mem_cons.mpr ⟨?_, fun signal hsignal => silent_of_mem_sends hsignal⟩
      cases reply with
      | failure | none => cases exchange.purpose <;> exact ⟨rfl, rfl⟩
      | response response =>
        have hstatus := hrejected response rfl
        cases exchange.purpose <;> simp [Signal.isGrant, Signal.isRelease, hstatus]
  · have hevent : ∀ reply, event ≠ .replied reply := fun reply h => hreply ⟨reply, h⟩
    obtain ⟨hbound, hinfo⟩ := (m.moves_step now hevent).info
    rw [m.signals_of_not_replied now hevent]
    exact ⟨hbound, by rw [hinfo], fun signal hsignal => silent_of_mem_sends hsignal⟩

/-- A 200 to a REGISTER tells what it grants. -/
theorem step_of_grant {call : CallId} {response : Sip.Response}
    (hexchange : m.exchange = some ⟨call, .register⟩) (hstatus : response.status = 200) :
    m.step now (.replied (.response response)) =
        (m.takeGrant now response).succeed call .register ∧
      m.signals now (.replied (.response response)) = [.heard .register (.response response)] := by
  have hreceive : m.receive now (.response response) =
      (m.takeGrant now response).succeed call .register := by
    simp only [receive, hexchange, judgeReply, judge, hstatus]
    rfl
  refine ⟨hreceive, ?_⟩
  rw [signals_replied now _ hexchange, hreceive, sends_of_silent _ rfl]

/-- A 200 to an un-REGISTER takes back the verdict on NAT and the lifetime. -/
theorem step_of_release {call : CallId} {deferred : Bool} {response : Sip.Response}
    (hexchange : m.exchange = some ⟨call, .unregister deferred⟩) (hstatus : response.status = 200) :
    m.step now (.replied (.response response)) =
        m.takeRelease.succeed call (.unregister deferred) ∧
      m.signals now (.replied (.response response)) =
        [.heard (.unregister deferred) (.response response)] := by
  have hreceive : m.receive now (.response response) =
      m.takeRelease.succeed call (.unregister deferred) := by
    simp only [receive, hexchange, judgeReply, judge, hstatus]
    rfl
  refine ⟨hreceive, ?_⟩
  rw [signals_replied now _ hexchange, hreceive, sends_of_silent _ rfl]

/-- An event is a 200 to a REGISTER, or a 200 to an un-REGISTER, or neither. -/
theorem grant_release_or_other (m : Manager) (event : Event) :
    (∃ call response, event = .replied (.response response) ∧ response.status = 200 ∧
      m.exchange = some ⟨call, .register⟩) ∨
    (∃ call deferred response, event = .replied (.response response) ∧ response.status = 200 ∧
      m.exchange = some ⟨call, .unregister deferred⟩) ∨
    (∀ response, event = .replied (.response response) → response.status = 200 →
      m.exchange = none) := by
  cases hexchange : m.exchange with
  | none => exact .inr (.inr fun _ _ _ => rfl)
  | some exchange =>
    by_cases hgood : ∃ response, event = .replied (.response response) ∧ response.status = 200
    · obtain ⟨response, hevent, hstatus⟩ := hgood
      obtain ⟨call, _ | deferred⟩ := exchange
      · exact .inl ⟨call, response, hevent, hstatus, rfl⟩
      · exact .inr (.inl ⟨call, deferred, response, hevent, hstatus, rfl⟩)
    · exact .inr (.inr fun response hevent hstatus => absurd ⟨response, hevent, hstatus⟩ hgood)

/-- A manager keeps its settings, and asks for the lifetime that its traffic tells. -/
theorem IsNew.expiry_after {m : Manager} (hm : m.IsNew) (history : History) :
    (m.after history).settings = m.settings ∧
      (m.after history).expiry = (m.traffic history).lifetime m.settings.registrationExpiry := by
  obtain ⟨blocks, haccount, hjoined, -⟩ := hm.account_after history
  exact ⟨haccount.same, hjoined ▸ haccount.expiry⟩

/-- A manager shows what the latest grant of its traffic told. -/
theorem IsNew.follows_after {m : Manager} (hm : m.IsNew) (history : History) :
    (m.after history).bound = m.bound ∧
      (m.after history).info.Follows m.settings m.bound (m.traffic history) := by
  have hnil : m.info.Follows m.settings m.bound [] := by
    obtain ⟨settings, bound, procedure, rfl⟩ := hm
    exact .nil
  refine after_induction
    (p := fun history n => n.bound = m.bound ∧
      n.info.Follows m.settings m.bound (m.traffic history))
    m ⟨rfl, hnil⟩ ?_ history
  rintro history now event ⟨hbound, hfollows⟩
  obtain ⟨hsettings, hexpiry⟩ := hm.expiry_after history
  rw [traffic, along_concat]
  -- A 200 to the exchange under way tells something; nothing else does.
  rcases (m.after history).grant_release_or_other event with
    ⟨call, response, rfl, hstatus, hexchange⟩ |
    ⟨call, deferred, response, rfl, hstatus, hexchange⟩ | hother
  · obtain ⟨hstep, hsignals⟩ := step_of_grant now hexchange hstatus
    rw [hstep, hsignals]
    refine ⟨hbound, .grant hstatus ?_⟩
    simp only [succeed, tell, takeGrant, hsettings, hbound, hexpiry]
    rfl
  · obtain ⟨hstep, hsignals⟩ := step_of_release now hexchange hstatus
    rw [hstep, hsignals]
    refine ⟨hbound, hfollows.concat rfl ?_⟩
    simp only [Info.lasting, List.any_cons, Signal.isRelease, hstatus]
    rfl
  · obtain ⟨hsame, hview, hsilent⟩ := step_of_other now hother
    exact ⟨hsame.trans hbound, hfollows.append hsilent hview⟩

end Manager

/-! ### The verdict on NAT -/

/-- A verdict names an address and a port exactly if it tells of a NAT. -/
theorem NatStatus.publicAddress_detect (via : List Sip.Hop) (bound : Endpoint) :
    (NatStatus.detect via bound).publicAddress.isSome = (NatStatus.detect via bound).behindNat := by
  have hseen (address : String) (port : Nat) :
      (NatStatus.ofSeen address port bound).publicAddress.isSome =
        (NatStatus.ofSeen address port bound).behindNat := by
    simp only [NatStatus.ofSeen]
    split
    · next hnat => exact hnat.symm
    · rfl
  cases via with
  | nil => rfl
  | cons top rest => exact hseen _ _

/-- There was no grant in some traffic, or there was a latest one. -/
theorem Traffic.latest_grant (traffic : Traffic) :
    (∀ signal ∈ traffic, signal.isGrant = false) ∨
      ∃ before response since,
        traffic = before ++ .heard .register (.response response) :: since ∧
          response.status = 200 ∧ ∀ signal ∈ since, signal.isGrant = false := by
  induction traffic using List.reverseRecOn with
  | nil => exact .inl (by simp)
  | append_singleton traffic signal ih =>
    cases hgrant : signal.isGrant with
    | true =>
      unfold Signal.isGrant at hgrant
      split at hgrant
      · next response => exact .inr ⟨traffic, response, [], rfl, by simpa using hgrant, by simp⟩
      · cases hgrant
    | false =>
      have hlast : ∀ other ∈ [signal], other.isGrant = false := by simpa using hgrant
      rcases ih with hnone | ⟨before, response, since, rfl, hstatus, hsince⟩
      · exact .inl (List.forall_mem_append.mpr ⟨hnone, hlast⟩)
      · exact .inr ⟨before, response, since ++ [signal], by simp, hstatus,
          List.forall_mem_append.mpr ⟨hsince, hlast⟩⟩

/-- What is shown names an address and a port exactly if it tells of a NAT. -/
theorem Info.Follows.publicAddress {info : Info} {settings : Settings} {bound : Endpoint}
    {traffic : Traffic} (h : info.Follows settings bound traffic) :
    info.nat.publicAddress.isSome = info.nat.behindNat := by
  have hnat : info.view.nat = info.nat := rfl
  rw [← hnat]
  rcases traffic.latest_grant with hnone | ⟨before, response, since, hsplit, hstatus, hsince⟩
  · rw [h.untold hnone]
    rfl
  · rw [h.latest before response since hsplit hstatus hsince]
    unfold Info.lasting
    split
    · rfl
    · exact NatStatus.publicAddress_detect _ bound

namespace Manager

/-- **What is shown is what the latest grant told.** Over every run of a new manager, the
identities, the GRUUs and the route that it shows are those of the latest 200 to a REGISTER that is
no un-REGISTER; so are the verdict on NAT and the lifetime, which is the one that was asked for if
none is given, unless a 200 to an un-REGISTER came since and took these two back. Before the first
such 200 nothing is shown. No event changes any of this but a 200 to the exchange under way: not a
rejection, a redirection, a failure or the lack of a reply, and not a stop. A public address is
shown exactly if a NAT is. -/
theorem view_shows_latest_grant {m : Manager} (hm : m.IsNew) (history : History) :
    ((∀ signal ∈ m.traffic history, signal.isGrant = false) → (m.after history).info.view = {}) ∧
    (∀ (before : Traffic) response since,
      m.traffic history = before ++ .heard .register (.response response) :: since →
      response.status = 200 → (∀ signal ∈ since, signal.isGrant = false) →
        let info := (m.after history).info
        let grant := Grant.ofResponse response m.settings.instanceId m.bound
        info.associatedUris = grant.associatedUris ∧ info.publicGruu = grant.publicGruu ∧
        info.tempGruu = grant.tempGruu ∧ info.serviceRoute = grant.serviceRoute ∧
        (info.nat, info.effectiveExpiry) =
          if since.any Signal.isRelease then ({}, none)
          else (grant.nat,
            some (grant.expiry.getD (before.lifetime m.settings.registrationExpiry)))) ∧
    (∀ now event,
      (∀ response, event = .replied (.response response) → response.status = 200 →
        (m.after history).exchange = none) →
      ((m.after history).step now event).1.info.view = (m.after history).info.view) ∧
    ((m.after history).info.nat.publicAddress.isSome = true ↔
      (m.after history).info.nat.behindNat = true) := by
  obtain ⟨-, hfollows⟩ := hm.follows_after history
  refine ⟨hfollows.untold, ?_, fun now event hother => (step_of_other now hother).2.1, ?_⟩
  · intro before response since hsplit hstatus hsince info grant
    have hview := hfollows.latest before response since hsplit hstatus hsince
    have hfields (told : Info) (htold : info.view = told) :
        info.associatedUris = told.associatedUris ∧ info.publicGruu = told.publicGruu ∧
          info.tempGruu = told.tempGruu ∧ info.serviceRoute = told.serviceRoute ∧
            (info.nat, info.effectiveExpiry) = (told.nat, told.effectiveExpiry) := by
      subst htold
      exact ⟨rfl, rfl, rfl, rfl, rfl⟩
    unfold Info.lasting at hview
    split at hview
    · next hreleased =>
      rw [if_pos hreleased]
      exact hfields _ hview
    · next hreleased =>
      rw [if_neg hreleased]
      exact hfields _ hview
  · rw [hfollows.publicAddress]

/-- A 200 for an example, which grants an identity for ten minutes and saw another port. -/
def sampleGrant : Sip.Response :=
  { status := 200
    headers := [.via [{ host := .address (.v4 [10, 0, 0, 2]), port := some 40000 }],
      .raw "P-Associated-URI" "<sip:b@a>", .expires 600] }

/-- An example: call 0 registers, call 1 un-registers, and call 2 is refused. -/
def sampleShown : History :=
  [(0, .called 0 .register), (1, .replied (.response sampleGrant)), (1, .returned 0),
    (2, .called 1 .unregister), (3, .replied .accepted), (3, .returned 1),
    (4, .called 2 .register), (5, .replied (.response { status := 403 }))]

/-- In the example, a NAT and an identity are shown at first, and in the end the identity alone. -/
theorem identity_outlasts_release_in_sample :
    let grant := Grant.ofResponse sampleGrant none sample.bound
    grant.associatedUris = ["sip:b@a"] ∧ grant.nat.publicAddress = some ("10.0.0.2", 40000) ∧
      (sample.after sampleShown).info.associatedUris = grant.associatedUris ∧
      ((sample.after sampleShown).info.nat, (sample.after sampleShown).info.effectiveExpiry) =
        ({}, none) := by
  have hsplit : sample.traffic sampleShown = (sample.traffic sampleShown).take 1 ++
      .heard .register (.response sampleGrant) :: (sample.traffic sampleShown).drop 2 := by
    decide +kernel
  have hsince : ∀ signal ∈ (sample.traffic sampleShown).drop 2, signal.isGrant = false := by
    decide +kernel
  have hreleased : ((sample.traffic sampleShown).drop 2).any Signal.isRelease = true := by
    decide +kernel
  obtain ⟨huris, -, -, -, hrest⟩ :=
    (view_shows_latest_grant sample_isNew sampleShown).2.1 _ sampleGrant _ hsplit rfl hsince
  rw [if_pos hreleased] at hrest
  exact ⟨by decide +kernel, by decide +kernel, huris, hrest⟩

end Manager

end ImsClient.Registration
