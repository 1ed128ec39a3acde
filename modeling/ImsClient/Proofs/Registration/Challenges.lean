import ImsClient.Proofs.Registration.Wire
import Mathlib.Data.List.DropRight

/-!
# Credentials stay with their dialog

The registrar challenges a client with a 401, and a 200 to a REGISTER may bring a
further nonce. What a client has to answer is told here from what passed on one
Call-ID alone: the latest challenge, the latest nonce, and how many requests used it.
The agent of a manager holds just that for the Call-ID of its dialog, and starts
afresh with a new one, so every request answers what the registrar said on its own
Call-ID and nothing else.

The uses of a nonce and the requests of a dialog are counted without a bound here, where a
client has counters of 32 bits. All of this stands for such a client as long as fewer than
2³² requests go on one Call-ID: up to there neither the number of a request nor the count of
a nonce runs over, and every count is written in eight digits.
-/

namespace ImsClient.Registration

namespace Signal

/-- The challenge of a 401, if it can be answered. -/
def challenge? : Signal → Option Digest.Challenge
  | heard _ (.response response) =>
    if response.status = 401 then
      (Digest.Challenge.ofResponse response "WWW-Authenticate").toOption
    else none
  | _ => none

/-- The next nonce that a 200 to a REGISTER brings. -/
def nextNonce? : Signal → Option String
  | heard .register (.response response) =>
    if response.status = 200 then
      (response.headerText? "Authentication-Info").bind Sip.AuthenticationInfo.nextNonce?
    else none
  | _ => none

/-- The nonce that a signal supplies: that of a challenge, or the next one. -/
def nonce? (signal : Signal) : Option String :=
  (signal.challenge?.map (·.nonce)).or signal.nextNonce?

/-- What is held after a signal: a challenge takes the place of another one, a next nonce that of
the nonce, and a request uses it. -/
def renew (signal : Signal) (held : Option Digest.Held) : Option Digest.Held :=
  match signal with
  | sent .. => held.map Digest.Held.used
  | heard .. =>
    match signal.challenge?, signal.nextNonce? with
    | some challenge, _ => some ⟨challenge, 0⟩
    | none, some nonce => held.map fun held => ⟨{ held.challenge with nonce }, 0⟩
    | none, none => held

/-- Whether a signal goes on a Call-ID, given whether the one before does: a request does if it has
the Call-ID, and a reply if the request does that it answers. -/
def goesOn (callId : Identifier) (before : Bool) : Signal → Bool
  | sent _ request => request.callId? = some callId
  | heard .. => before

end Signal

namespace Traffic

/-- The latest challenge. -/
def challenge? (traffic : Traffic) : Option Digest.Challenge :=
  (traffic.filterMap Signal.challenge?).getLast?

/-- The latest nonce that was supplied, or the empty one. -/
def nonce (traffic : Traffic) : String := latest Signal.nonce? "" traffic

/-- How many requests were sent since the latest nonce was supplied. -/
def uses (traffic : Traffic) : Nat :=
  (requests (traffic.rtakeWhile fun signal => signal.nonce?.isNone)).length

/-- The latest challenge, with the latest nonce and how often it was used. -/
def held? (traffic : Traffic) : Option Digest.Held :=
  traffic.challenge?.map fun challenge => ⟨{ challenge with nonce := traffic.nonce }, traffic.uses⟩

/-- One more challenge is the latest one. -/
theorem challenge?_concat (traffic : Traffic) (signal : Signal) :
    challenge? (traffic ++ [signal]) = signal.challenge?.or traffic.challenge? := by
  unfold challenge?
  rw [List.filterMap_append]
  cases hchallenge : signal.challenge? with
  | none => simp [hchallenge]
  | some challenge => simp [hchallenge]

/-- One more request uses the nonce once more; one more nonce was not used yet. -/
theorem uses_concat (traffic : Traffic) (signal : Signal) :
    uses (traffic ++ [signal]) =
      if signal.nonce?.isNone then traffic.uses + (requests [signal]).length else 0 := by
  unfold uses
  rw [List.rtakeWhile_concat]
  split
  · rw [requests, List.filterMap_append, List.length_append]
    rfl
  · rfl

/-- One more signal renews what is held. -/
theorem held?_concat (traffic : Traffic) (signal : Signal) :
    held? (traffic ++ [signal]) = signal.renew traffic.held? := by
  unfold held?
  rw [challenge?_concat, uses_concat, nonce, latest_concat]
  cases signal with
  | sent purpose request =>
    cases traffic.challenge? <;> rfl
  | heard purpose reply =>
    unfold Signal.renew Signal.nonce?
    cases (Signal.heard purpose reply).challenge? with
    | some challenge => rfl
    | none =>
      cases (Signal.heard purpose reply).nextNonce? with
      | some nonce => cases traffic.challenge? <;> rfl
      | none => cases traffic.challenge? <;> rfl

/-- Whether the latest request goes on a Call-ID. -/
def isOn (callId : Identifier) (traffic : Traffic) : Bool :=
  traffic.foldl (Signal.goesOn callId) false

/-- What goes on a Call-ID, after a signal that does or does not. -/
def onFrom (callId : Identifier) : Bool → Traffic → Traffic
  | _, [] => []
  | before, signal :: rest =>
    if signal.goesOn callId before then signal :: onFrom callId true rest
    else onFrom callId false rest

/-- What passed on a Call-ID: the requests that have it, and the replies to them. -/
def on (callId : Identifier) (traffic : Traffic) : Traffic := onFrom callId false traffic

variable {callId : Identifier}

/-- The latest request is that of one more signal, if it is a request. -/
theorem isOn_concat (callId : Identifier) (traffic : Traffic) (signal : Signal) :
    isOn callId (traffic ++ [signal]) = signal.goesOn callId (traffic.isOn callId) := by
  simp [isOn]

/-- One more signal goes on the Call-ID or does not. -/
theorem onFrom_concat (callId : Identifier) (before : Bool) (traffic : Traffic)
    (signal : Signal) :
    onFrom callId before (traffic ++ [signal]) =
      onFrom callId before traffic ++
        if signal.goesOn callId (traffic.foldl (Signal.goesOn callId) before) then [signal]
        else [] := by
  induction traffic generalizing before with
  | nil => rfl
  | cons first traffic ih =>
    simp only [List.cons_append, onFrom, List.foldl_cons]
    rcases Bool.eq_false_or_eq_true (first.goesOn callId before) with hfirst | hfirst
    · simp only [hfirst, if_true, ih, List.cons_append]
    · simp only [hfirst, Bool.false_eq_true, if_false, ih]

/-- One more signal passed on the Call-ID of the latest request. -/
theorem on_concat (callId : Identifier) (traffic : Traffic) (signal : Signal) :
    on callId (traffic ++ [signal]) =
      on callId traffic ++ if isOn callId (traffic ++ [signal]) then [signal] else [] := by
  rw [isOn_concat]
  exact onFrom_concat callId false traffic signal

/-- Nothing passed on a Call-ID that no request had. -/
theorem on_of_unused {traffic : Traffic}
    (hunused : ∀ request ∈ traffic.requests, request.callId? ≠ some callId) :
    on callId traffic = [] := by
  unfold on
  induction traffic with
  | nil => rfl
  | cons signal traffic ih =>
    have hsignal : signal.goesOn callId false = false := by
      cases signal with
      | heard purpose reply => rfl
      | sent purpose request =>
        have hrequest := hunused request (by simp [requests, Signal.request?])
        simpa [Signal.goesOn] using hrequest
    simp only [onFrom, hsignal, Bool.false_eq_true, if_false]
    refine ih fun request hrequest => hunused request ?_
    rw [requests, List.mem_filterMap] at hrequest ⊢
    obtain ⟨other, hother, hsame⟩ := hrequest
    exact ⟨other, List.mem_cons_of_mem _ hother, hsame⟩

end Traffic

/-- What the credentials in a request say, after what passed on its Call-ID before. -/
structure Answers (agent : Digest.Agent) (realm : String) (before : Traffic)
    (request : Sip.Request) (credentials : Digest.Credentials) : Prop where
  /-- They are the only ones in the request. -/
  only : request.headers.filter (Sip.Header.isNamed "Authorization") =
    [.ofText "Authorization" credentials.text]
  username : credentials.username = agent.username
  uri : credentials.uri = request.uri.text .plain
  /-- Without a challenge they only say who sends the request. -/
  unchallenged : before.challenge? = none → credentials.realm = realm ∧ credentials.nonce = "" ∧
    credentials.response = "" ∧ credentials.algorithm = none ∧ credentials.auth = none ∧
    credentials.opaqueData = none
  /-- With one, they prove the password with the latest nonce, and count its uses. -/
  challenged : ∀ challenge, before.challenge? = some challenge →
    credentials.realm = challenge.realm ∧ credentials.nonce = before.nonce ∧
    credentials.algorithm = some "MD5" ∧ credentials.opaqueData = challenge.opaqueData ∧
    credentials.auth.map Prod.fst =
      (if challenge.offersAuth then some (Digest.Agent.countText (before.uses + 1)) else none) ∧
    credentials.response = Digest.response agent.username agent.password challenge.realm
      before.nonce request.method.text credentials.uri credentials.auth

/-- The credentials for what passed on a Call-ID answer it. -/
theorem answers_of {agent : Digest.Agent} {realm : String} {before : Traffic}
    {request : Sip.Request} {credentials : Digest.Credentials} (clientNonce : String)
    (hcredentials : credentials = .of agent.username agent.password realm before.held? clientNonce
      request.method (request.uri.text .plain))
    (honly : request.headers.filter (Sip.Header.isNamed "Authorization") =
      [.ofText "Authorization" credentials.text]) :
    Answers agent realm before request credentials := by
  cases hchallenge : before.challenge? with
  | none =>
    have hheld : before.held? = none := by rw [Traffic.held?, hchallenge, Option.map_none]
    rw [hheld] at hcredentials
    refine ⟨honly, ?_, ?_, fun _ => ?_, fun challenge hsome => ?_⟩
    · rw [hcredentials]
      rfl
    · rw [hcredentials]
      rfl
    · rw [hcredentials]
      exact ⟨rfl, rfl, rfl, rfl, rfl, rfl⟩
    · cases hchallenge.symm.trans hsome
  | some challenge =>
    have hheld : before.held? =
        some ⟨{ challenge with nonce := before.nonce }, before.uses⟩ := by
      rw [Traffic.held?, hchallenge, Option.map_some]
    rw [hheld] at hcredentials
    refine ⟨honly, ?_, ?_, fun hnone => ?_, fun other hsome => ?_⟩
    · rw [hcredentials]
      rfl
    · rw [hcredentials]
      rfl
    · cases hchallenge.symm.trans hnone
    · cases hchallenge.symm.trans hsome
      rw [hcredentials]
      refine ⟨rfl, rfl, rfl, rfl, ?_, rfl⟩
      unfold Digest.Credentials.of
      dsimp only
      split <;> rfl

/-! ### Replies -/

/-- A reply that is neither a 401 nor a 200 to a REGISTER brings nothing. -/
theorem Signal.renew_of_silent (purpose : Purpose) {response : Sip.Response}
    (h401 : response.status ≠ 401) (h200 : response.status = 200 → purpose ≠ .register)
    (held : Option Digest.Held) : (heard purpose (.response response)).renew held = held := by
  have hchallenge : (heard purpose (.response response)).challenge? = none := by
    simp only [challenge?, h401, if_false]
  have hnonce : (heard purpose (.response response)).nextNonce? = none := by
    cases purpose with
    | unregister => rfl
    | register =>
      have hother : response.status ≠ 200 := fun hstatus => h200 hstatus rfl
      simp only [nextNonce?, hother, if_false]
  simp only [renew, hchallenge, hnonce]

/-- What an agent holds after it read a 401 is what the 401 brings. -/
theorem Procedure.read_challenge (agent : Digest.Agent) (realm : String) (purpose : Purpose)
    {response : Sip.Response} (hstatus : response.status = 401) :
    (Procedure.read response (.digest agent realm)).2 =
      .digest { agent with held := (Signal.heard purpose (.response response)).renew agent.held }
        realm := by
  have hnonce : (Signal.heard purpose (.response response)).nextNonce? = none := by
    cases purpose <;> simp [Signal.nextNonce?, hstatus]
  simp only [Procedure.read, hstatus, Digest.Agent.readChallenge, Signal.renew, hnonce,
    Signal.challenge?, if_true]
  cases Digest.Challenge.ofResponse response "WWW-Authenticate" <;> rfl

/-- What an agent holds after it read a 200 to a REGISTER is what the 200 brings. -/
theorem Procedure.read_info (agent : Digest.Agent) (realm : String) {response : Sip.Response}
    (hstatus : response.status = 200) :
    (Procedure.read response (.digest agent realm)).2 =
      .digest { agent with held := (Signal.heard .register (.response response)).renew agent.held }
        realm := by
  have hchallenge : (Signal.heard .register (.response response)).challenge? = none := by
    simp [Signal.challenge?, hstatus]
  have hnonce : (Signal.heard .register (.response response)).nextNonce? =
      (response.headerText? "Authentication-Info").bind Sip.AuthenticationInfo.nextNonce? := by
    simp only [Signal.nextNonce?, hstatus, if_true]
  unfold Procedure.read Signal.renew
  simp only [hstatus, hchallenge, hnonce]
  cases response.headerText? "Authentication-Info" with
  | none => rfl
  | some value =>
    rw [Option.bind_some]
    dsimp only
    -- Neither side depends on how a next nonce is read.
    delta Digest.Agent.readInfo
    generalize Sip.AuthenticationInfo.nextNonce? value = next
    cases next with
    | none => rfl
    | some nonce =>
      cases hheld : agent.held with
      | none =>
        simp only [Option.map_none]
        rw [← hheld]
      | some held => rfl

namespace Manager

variable {m n : Manager} {agent : Digest.Agent} {realm : String}

/-- After a reply that does not fail the attempt, the agent of a manager holds what the reply
brings. -/
theorem Ruling.digest (hprocedure : m.procedure = .digest agent realm) {now : Instant}
    {purpose : Purpose} {reply : Reply} {verdict : Verdict}
    (h : Ruling m now purpose reply n verdict) :
    ∃ held, n.procedure = .digest { agent with held := held } realm ∧
      ((∀ error, verdict ≠ .fail error) →
        held = (Signal.heard purpose reply).renew agent.held) := by
  cases h with
  | granted hstatus =>
    refine ⟨_, ?_, fun _ => rfl⟩
    simp only [takeGrant, hprocedure]
    exact Procedure.read_info agent realm hstatus
  | released hstatus =>
    refine ⟨agent.held, hprocedure, fun _ => ?_⟩
    exact (Signal.renew_of_silent _ (by simp [hstatus]) (by simp) agent.held).symm
  | redirected hstatus | adopted hstatus =>
    refine ⟨agent.held, hprocedure, fun _ => ?_⟩
    exact (Signal.renew_of_silent _ (by simp [hstatus]) (by simp [hstatus]) agent.held).symm
  | challenged hstatus =>
    refine ⟨_, ?_, fun _ => rfl⟩
    simp only [hprocedure]
    exact Procedure.read_challenge agent realm purpose hstatus
  | rejected hstatus =>
    refine ⟨agent.held, hprocedure, fun _ => (Signal.renew_of_silent _ ?_ ?_ agent.held).symm⟩
    · intro h
      simp [h, isRetried] at hstatus
    · intro h
      simp [h, isRetried] at hstatus
  | failed _ _ _ _ _ hread =>
    rcases hread with hsame | ⟨response, rfl, hstatus, hread⟩
    · exact ⟨agent.held, hsame.trans hprocedure, fun h => absurd rfl (h _)⟩
    · rw [hprocedure, Procedure.read_challenge agent realm purpose hstatus] at hread
      exact ⟨_, hread, fun h => absurd rfl (h _)⟩

/-! ### Requests -/

/-- With Digest, a request that is composed is a REGISTER on the Call-ID of the dialog, with the
credentials for what the agent holds and no others. -/
theorem compose_digest (hprocedure : m.procedure = .digest agent realm) {purpose : Purpose}
    {request : Sip.Request} (hrequest : (m.compose purpose).1 = .ok request) :
    ∃ dialog clientNonce drawn, m.dialog = some dialog ∧ request.callId? = some dialog.callId ∧
      request.method = .register ∧
      request.headers.filter (Sip.Header.isNamed "Authorization") =
        [.ofText "Authorization" (Digest.Credentials.of agent.username agent.password realm
          agent.held clientNonce request.method (request.uri.text .plain)).text] ∧
      (m.compose purpose).2.procedure =
        .digest { agent with held := agent.held.map Digest.Held.used, drawn := drawn } realm := by
  unfold compose at hrequest ⊢
  cases hdialog : m.dialog with
  | none =>
    rw [hdialog] at hrequest
    cases hrequest
  | some dialog =>
    rw [hdialog] at hrequest
    dsimp only at hrequest ⊢
    generalize (if purpose.isUnregister = true then 0 else m.expiry) = expiry at hrequest ⊢
    cases hregister : dialog.register m.bound expiry m.settings.instanceId m.settings.featureTags
        m.supply with
    | error e =>
      rw [hregister] at hrequest
      cases hrequest
    | ok made =>
      obtain ⟨made, supply⟩ := made
      obtain ⟨hmethod, hbare⟩ := Dialog.bare_of_register hregister
      obtain ⟨hcarries, _, _⟩ := Dialog.carries_of_register hregister
      obtain ⟨clientNonce, drawn, hwrite⟩ := Procedure.write_digest agent realm made
      rw [hregister, hprocedure] at hrequest
      dsimp only at hrequest ⊢
      rw [hwrite] at hrequest
      rw [hprocedure, hwrite]
      cases hrequest
      have hwritten := Procedure.carries_of_write
        (congrArg Prod.fst hwrite : (Procedure.write made (.digest agent realm)).1 = .ok _) hcarries
      exact ⟨dialog, clientNonce, drawn, rfl, hwritten.1.callId, hmethod,
        filter_replace_authorization _ hbare, rfl⟩

/-- With Digest, a request that cannot be composed leaves the manager as it is. -/
theorem compose_refused (hprocedure : m.procedure = .digest agent realm) {purpose : Purpose}
    {error : Error} (herror : (m.compose purpose).1 = .error error) :
    (m.compose purpose).2 = m := by
  unfold compose at herror ⊢
  cases hdialog : m.dialog with
  | none => rfl
  | some dialog =>
    rw [hdialog] at herror
    dsimp only at herror ⊢
    generalize (if purpose.isUnregister = true then 0 else m.expiry) = expiry at herror ⊢
    cases hregister : dialog.register m.bound expiry m.settings.instanceId m.settings.featureTags
        m.supply with
    | error e => rfl
    | ok made =>
      obtain ⟨clientNonce, drawn, hwrite⟩ := Procedure.write_digest agent realm made.1
      rw [hregister, hprocedure] at herror
      dsimp only at herror
      rw [hwrite] at herror
      cases herror

/-! ### The agent -/

/-- How the agent of a manager agrees with the traffic: with a dialog, it holds what the registrar
said on its Call-ID, which is the one that is spoken of unless a request is due; and every request
so far answered what was said on its own. -/
structure Attends (agent : Digest.Agent) (realm : String) (due : Nat) (traffic : Traffic)
    (m : Manager) : Prop where
  holds : ∃ held drawn,
    m.procedure = .digest { agent with held := held, drawn := drawn } realm ∧
      ∀ dialog, m.dialog = some dialog → held = (traffic.on dialog.callId).held?
  gave : ∀ request ∈ traffic.requests, ∀ callId, request.callId? = some callId →
    m.supply.Gave callId
  drew : ∀ dialog, m.dialog = some dialog → m.supply.Gave dialog.callId
  isOn : due = 0 → ∀ dialog, m.dialog = some dialog → traffic.isOn dialog.callId = true
  answers : traffic.Throughout fun before signal => ∀ purpose request,
    signal = .sent purpose request → request.method = .register ∧
      ∃ callId credentials, request.callId? = some callId ∧
        Answers agent realm (before.on callId) request credentials

namespace Attends

variable {traffic : Traffic} {due : Nat}

/-- Another manager attends as well, if it has the same procedure and no other dialog. -/
theorem mono (h : Attends agent realm due traffic m) (hprocedure : n.procedure = m.procedure)
    (hsupply : n.supply = m.supply)
    (hdialog : ∀ dialog, n.dialog = some dialog → m.dialog = some dialog) :
    Attends agent realm due traffic n where
  holds := by
    obtain ⟨held, drawn, hsame, hheld⟩ := h.holds
    exact ⟨held, drawn, hprocedure.trans hsame, fun dialog hn => hheld dialog (hdialog dialog hn)⟩
  gave request hrequest callId hcallId := hsupply ▸ h.gave request hrequest callId hcallId
  drew dialog hn := hsupply ▸ h.drew dialog (hdialog dialog hn)
  isOn hdue dialog hn := h.isOn hdue dialog (hdialog dialog hn)
  answers := h.answers

/-- A dialog that is opened has a Call-ID on which nothing was said. -/
theorem prepareDialog (h : Attends agent realm 0 traffic m) (hdialog : m.dialog = none) :
    Attends agent realm 1 traffic m.prepareDialog := by
  have hgiven := (m.supply.gave_draw (.call m.bound.ip.text)).mono
    ((Supply.Reaches.refl _).draw .tag)
  have hreaches := ((Supply.Reaches.refl m.supply).draw (.call m.bound.ip.text)).draw .tag
  obtain ⟨held, drawn, hprocedure, _⟩ := h.holds
  rw [prepareDialog_of_none hdialog]
  refine ⟨⟨none, drawn, ?_, ?_⟩, ?_, ?_, fun hdue => absurd hdue Nat.one_ne_zero, h.answers⟩
  · simp only [hprocedure, Procedure.init, Digest.Agent.reset]
  · rintro dialog ⟨⟩
    have hunused : ∀ request ∈ traffic.requests,
        request.callId? ≠ some (m.supply.draw (.call m.bound.ip.text)).1 := by
      intro request hrequest hsame
      exact m.supply.draw_not_given _ (h.gave request hrequest _ hsame)
    rw [Traffic.on_of_unused hunused]
    rfl
  · exact fun request hrequest callId hcallId =>
      (h.gave request hrequest callId hcallId).mono hreaches
  · rintro dialog ⟨⟩
    exact hgiven

/-- The request that is due answers what was said on its Call-ID. -/
theorem compose (h : Attends agent realm 1 traffic m) {purpose : Purpose} {request : Sip.Request}
    (hrequest : (m.compose purpose).1 = .ok request) :
    Attends agent realm 0 (traffic ++ [.sent purpose request]) (m.compose purpose).2 := by
  obtain ⟨held, drawn, hprocedure, hheld⟩ := h.holds
  obtain ⟨dialog, clientNonce, drawn', hdialog, hcallId, hmethod, honly, hnext⟩ :=
    compose_digest hprocedure hrequest
  have hsame : (m.compose purpose).2.dialog = m.dialog := by
    obtain ⟨procedure, supply, huses⟩ := m.compose_uses purpose
    rw [huses]
  have hreaches := (m.compose_carries purpose).1
  have hisOn : Traffic.isOn dialog.callId (traffic ++ [.sent purpose request]) = true := by
    rw [Traffic.isOn_concat]
    exact decide_eq_true hcallId
  refine ⟨⟨_, _, hnext, ?_⟩, ?_, ?_, fun _ => ?_, ?_⟩
  · intro other hother
    cases hdialog.symm.trans (hsame.symm.trans hother)
    rw [Traffic.on_concat, hisOn, if_pos rfl, Traffic.held?_concat, ← hheld dialog hdialog]
    rfl
  · intro other hother callId hsame'
    rw [Traffic.requests, List.filterMap_append, List.mem_append] at hother
    rcases hother with hother | hother
    · exact (h.gave other hother callId hsame').mono hreaches
    · obtain rfl : other = request := by simpa [Signal.request?] using hother
      cases hcallId.symm.trans hsame'
      exact (h.drew dialog hdialog).mono hreaches
  · intro other hother
    exact (h.drew other (hsame.symm.trans hother)).mono hreaches
  · intro other hother
    cases hdialog.symm.trans (hsame.symm.trans hother)
    exact hisOn
  · refine h.answers.concat ?_
    rintro _ _ ⟨⟩
    refine ⟨hmethod, dialog.callId, _, hcallId, answers_of clientNonce rfl ?_⟩
    rw [← hheld dialog hdialog]
    exact honly

/-- What a reply says on the Call-ID of the dialog is held, unless the dialog is dropped. -/
theorem hear (h : Attends agent realm 0 traffic m) {now : Instant} {purpose : Purpose}
    {reply : Reply} (hprocedure : n.procedure = (m.judgeReply now purpose reply).1.procedure)
    (hsupply : n.supply = (m.judgeReply now purpose reply).1.supply)
    (hkept : ∀ dialog, n.dialog = some dialog →
      n.dialog = (m.judgeReply now purpose reply).1.dialog ∧
        ∀ error, (m.judgeReply now purpose reply).2 ≠ .fail error) :
    Attends agent realm 0 (traffic ++ [.heard purpose reply]) n := by
  have hheeds := m.judgeReply_heeds now purpose reply
  obtain ⟨held, drawn, hdigest, hheld⟩ := h.holds
  obtain ⟨held', hread, hrenewed⟩ := (m.judgeReply_ruling now purpose reply).digest hdigest
  have hsame : n.supply = m.supply := hsupply.trans hheeds.supply
  have hdialog (dialog : Dialog) (hn : n.dialog = some dialog) :
      ∃ before, m.dialog = some before ∧ before.callId = dialog.callId := by
    rw [(hkept dialog hn).1, hheeds.dialog, Option.map_eq_some_iff] at hn
    obtain ⟨before, hbefore, rfl⟩ := hn
    exact ⟨before, hbefore, rfl⟩
  have hisOn (dialog : Dialog) (hn : n.dialog = some dialog) :
      Traffic.isOn dialog.callId (traffic ++ [.heard purpose reply]) = true := by
    obtain ⟨before, hbefore, hcallId⟩ := hdialog dialog hn
    rw [Traffic.isOn_concat, ← hcallId]
    exact h.isOn rfl before hbefore
  refine ⟨⟨held', drawn, hprocedure.trans hread, fun dialog hn => ?_⟩, ?_, ?_,
    fun _ => hisOn, ?_⟩
  · obtain ⟨before, hbefore, hcallId⟩ := hdialog dialog hn
    rw [Traffic.on_concat, hisOn dialog hn, if_pos rfl, Traffic.held?_concat,
      hrenewed (hkept dialog hn).2, ← hcallId, ← hheld before hbefore]
  · intro request hrequest callId hcallId
    rw [hsame]
    refine h.gave request ?_ callId hcallId
    simpa [Traffic.requests, Signal.request?] using hrequest
  · intro dialog hn
    obtain ⟨before, hbefore, hcallId⟩ := hdialog dialog hn
    rw [hsame, ← hcallId]
    exact h.drew before hbefore
  · refine h.answers.concat ?_
    rintro _ _ ⟨⟩

end Attends

/-- A manager with Digest attends to its traffic whatever happens. -/
theorem keptUp_attends (agent : Digest.Agent) (realm : String) :
    KeptUp (Attends agent realm) where
  keeps h hkeeps hprocedure :=
    h.mono hprocedure hkeeps.supply fun _ hdialog => hkeeps.dialog ▸ hdialog
  drops := by
    intro due traffic m h
    have hnone : Attends agent realm due traffic { m with dialog := none } :=
      h.mono rfl rfl (by rintro _ ⟨⟩)
    exact { hnone with isOn := by rintro _ _ ⟨⟩ }
  opens h hdialog := h.prepareDialog hdialog
  advances := by
    intro traffic m h
    obtain ⟨held, drawn, hprocedure, hheld⟩ := h.holds
    have hbefore (dialog : Dialog) (hn : m.dialog.map Dialog.advance = some dialog) :
        ∃ before, m.dialog = some before ∧ before.callId = dialog.callId := by
      obtain ⟨before, hbefore, rfl⟩ := Option.map_eq_some_iff.mp hn
      exact ⟨before, hbefore, rfl⟩
    refine ⟨⟨held, drawn, hprocedure, fun dialog hn => ?_⟩, h.gave, fun dialog hn => ?_,
      fun hdue => absurd hdue Nat.one_ne_zero, h.answers⟩
    · obtain ⟨before, hbefore, hcallId⟩ := hbefore dialog hn
      exact hcallId ▸ hheld before hbefore
    · obtain ⟨before, hbefore, hcallId⟩ := hbefore dialog hn
      exact hcallId ▸ h.drew before hbefore
  sends h hrequest := h.compose hrequest
  refuses h herror := by
    obtain ⟨_, _, hprocedure, _⟩ := h.holds
    rwa [compose_refused hprocedure herror]
  hears now purpose reply h _ hgoes := h.hear rfl rfl fun _ _ => ⟨rfl, hgoes⟩
  fails now purpose reply h _ _ := h.hear rfl rfl (by rintro _ ⟨⟩)

/-- **Credentials stay with their dialog.** With Digest, every request of every run is a REGISTER
with one Authorization, whose URI is that of the request. What it says depends on nothing but what
passed before on the Call-ID of the request. Until the registrar challenged the client there, the
nonce and the response are empty. From then on the latest challenge is answered, with the latest
nonce that a 401 or a 200 to a REGISTER supplied; and the nonce count, if one is asked for, is the
number of requests with that nonce, this one among them. A client that counts with 32 bits does so
for the first 2³² - 1 requests on a Call-ID. -/
theorem credentials_stay_with_dialog (settings : Settings) (bound : Endpoint)
    (agent : Digest.Agent) (realm : String) (history : History) :
    let m := create settings bound (.digest agent realm)
    (m.traffic history).requests = (m.trace history).filterMap Effect.sent? ∧
      ∀ (before : Traffic) purpose request rest,
        m.traffic history = before ++ .sent purpose request :: rest →
          request.method = .register ∧ ∃ callId credentials, request.callId? = some callId ∧
            Answers agent realm (before.on callId) request credentials := by
  intro m
  have hstart : Attends agent realm 0 [] m :=
    ⟨⟨agent.held, agent.drawn, rfl, by rintro _ ⟨⟩⟩, by rintro _ ⟨⟩, by rintro _ ⟨⟩,
      by rintro _ _ ⟨⟩, Traffic.throughout_nil _⟩
  have hattends := (keptUp_attends agent realm).after ⟨settings, bound, _, rfl⟩ hstart history
  refine ⟨m.requests_traffic history, ?_⟩
  intro before purpose request rest hsplit
  exact hattends.answers before _ rest hsplit purpose request rfl

/-- A manager with Digest, for an example. -/
def sampleDigest : Manager :=
  create { homeDomain := "a", publicUri := "sip:b@a" } ⟨.v4 [10, 0, 0, 2], 5060⟩
    (.digest { username := "b", password := "p" } "a")

/-- An example: the registrar challenges the client, and supplies a further nonce when it lets it
in. The registration is refreshed and taken back, and then made anew. -/
def sampleChallenged : History :=
  [(0, .called 0 .register),
    (1, .replied (.response
      { status := 401
        headers := [.raw "WWW-Authenticate" "Digest realm=\"r\", nonce=\"n\", qop=\"auth\""] })),
    (2, .replied (.response
      { status := 200, headers := [.raw "Authentication-Info" "nextnonce=\"m\""] })),
    (2, .returned 0), (3, .called 1 .refresh), (4, .replied .accepted), (4, .returned 1),
    (5, .called 2 .unregister), (6, .replied .accepted), (6, .returned 2), (7, .called 3 .register)]

/-- In the example, the fourth request is the second one to use the further nonce. -/
theorem further_nonce_used_twice_in_sample :
    ∃ (before : Traffic) (purpose : Purpose) (request : Sip.Request) (rest : Traffic)
      (callId : Identifier) (credentials : Digest.Credentials),
      sampleDigest.traffic sampleChallenged = before ++ .sent purpose request :: rest ∧
        before.requests.length = 3 ∧ request.callId? = some callId ∧
        Answers { username := "b", password := "p" } "a" (before.on callId) request credentials ∧
        credentials.nonce = "m" ∧ credentials.auth.map Prod.fst = some "00000002" := by
  have hstays := credentials_stay_with_dialog
    { homeDomain := "a", publicUri := "sip:b@a" } ⟨.v4 [10, 0, 0, 2], 5060⟩
    { username := "b", password := "p" } "a" sampleChallenged
  have hfourth : ((sampleDigest.traffic sampleChallenged)[6]?.bind Signal.request?).bind
      Sip.Request.callId? = some (.drawn ⟨0, 0⟩ (.call "10.0.0.2")) := by decide +kernel
  obtain ⟨request, hsent, hcallId⟩ := Option.bind_eq_some_iff.mp hfourth
  obtain ⟨signal, hsignal, hrequest⟩ := Option.bind_eq_some_iff.mp hsent
  cases signal with
  | heard purpose reply => cases hrequest
  | sent purpose request =>
    cases hrequest
    obtain ⟨hlength, hget⟩ := List.getElem?_eq_some_iff.mp hsignal
    have hsplit : sampleDigest.traffic sampleChallenged =
        (sampleDigest.traffic sampleChallenged).take 6 ++
          .sent purpose request :: (sampleDigest.traffic sampleChallenged).drop 7 := by
      rw [← hget, ← List.drop_eq_getElem_cons hlength, List.take_append_drop]
    obtain ⟨_, callId, credentials, hsame, hanswers⟩ := hstays.2 _ purpose request _ hsplit
    cases hcallId.symm.trans hsame
    obtain ⟨hearlier, hchallenge, hnonce, huses⟩ :
        let before : Traffic := (sampleDigest.traffic sampleChallenged).take 6
        let onCall : Traffic := before.on (.drawn ⟨0, 0⟩ (.call "10.0.0.2"))
        before.requests.length = 3 ∧
          onCall.challenge? = some { realm := "r", nonce := "n", offersAuth := true } ∧
          onCall.nonce = "m" ∧ onCall.uses = 1 := by decide +kernel
    obtain ⟨_, hlatest, _, _, hauth, _⟩ := hanswers.challenged _ hchallenge
    refine ⟨_, purpose, request, _, _, credentials, hsplit, hearlier, hcallId, hanswers,
      hlatest.trans hnonce, hauth.trans ?_⟩
    rw [huses]
    decide +kernel

end Manager

end ImsClient.Registration
