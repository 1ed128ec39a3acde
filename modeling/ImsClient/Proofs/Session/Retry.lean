import ImsClient.Proofs.Dialog.Offer
import ImsClient.Proofs.Session.Acknowledgement

/-!
# The offer that is made again

A re-INVITE that the proxy challenges is built once more, of the dialog as it stands
then and with credentials. If nothing else touched the dialog, the new one leads to the
same place, is of the same dialog, and carries the same body. Its feature tags are
those that the session was set up with, whatever tags the first one offered; so it is
the same offer exactly if the first one offered the tags of the session.
-/

namespace ImsClient

/-- The text of a body is that of its content; there is no content if it is empty. -/
theorem Sip.Body.getD_content? (content : String) : (text content).content?.getD "" = content := by
  simp only [content?]
  split
  · next hempty => exact (String.isEmpty_iff.mp hempty).symm
  · rfl

namespace Session

/-- What a session is set up with, for good. -/
structure Setup where
  settings : Settings
  bound : Endpoint
  id : Identifier
  kind : Kind
  featureTags : List String

namespace Service

def setup (s : Service) : Setup := ⟨s.settings, s.bound, s.id, s.kind, s.featureTags⟩

/-! ### What stays -/

/-- To end the acceptance of a re-INVITE leaves the setup. -/
theorem setup_concludeAcceptance (s : Service) (task : TaskId) (answering : Option Context)
    (ended : Except Error Unit) :
    (s.concludeAcceptance task answering ended).1.setup = s.setup := by
  unfold concludeAcceptance
  split <;> rfl

/-- To accept a re-INVITE leaves the setup. -/
theorem setup_sendAcceptance (s : Service) (task : TaskId) (request : Sip.Request)
    (reply : Description) (answering : Option Context) :
    (s.sendAcceptance task request reply answering).1.setup = s.setup := by
  unfold sendAcceptance
  split
  · exact s.setup_concludeAcceptance task answering _
  · dsimp only
    split
    · split
      · exact setup_concludeAcceptance _ task answering _
      · rfl
    · exact s.setup_concludeAcceptance task answering _

/-- To refuse one leaves the setup. -/
theorem setup_refuse (s : Service) (task : TaskId) (request : Sip.Request) (status : Nat)
    (outcome : Outcome) : (s.refuse task request status outcome).1.setup = s.setup := by
  unfold refuse
  split
  · rfl
  · split <;> rfl

/-- To look at the decision leaves the setup. -/
theorem setup_look (s : Service) (now : Instant) (task : TaskId) :
    (s.look now task).1.setup = s.setup := by
  unfold look
  split
  · split
    · unfold carryOut
      split
      · exact s.setup_sendAcceptance ..
      · exact s.setup_refuse ..
      · exact s.setup_refuse ..
    · rfl
  · split <;> rfl
  · rfl

/-- Credentials for the proxy leave the setup. -/
theorem setup_authorize (s : Service) (request : Sip.Request) :
    (s.authorize request).1.setup = s.setup := by
  unfold authorize
  split
  · rfl
  · dsimp only
    split <;> rfl

/-- To move the transport's count changes nothing else. -/
theorem advancePeer_eq (s : Service) (callId : Identifier) (cSeq : Nat) :
    ∃ peerCount, (s.advancePeer callId cSeq).1 = { s with peerCount } := by
  unfold advancePeer
  split
  · split
    · exact ⟨some cSeq, rfl⟩
    · exact ⟨s.peerCount, rfl⟩
  · exact ⟨s.peerCount, rfl⟩

/-- What is built of a dialog whose texts can be read, and the session after it: the credentials are
added last. -/
theorem createReinvite_eq {s : Service} {dialog : Dialog} {reading : Dialog.Reading}
    (offer : Description) (hdialog : s.dialog = some dialog) (hread : dialog.read = .ok reading) :
    ∃ peerCount effects, s.createReinvite offer =
      let (branch, supply) := s.supply.draw .branch
      let (s, request) := { s with dialog := some dialog.advance, supply, peerCount }.authorize
        (reading.offer dialog.advance s.bound offer.featureTags offer.content branch)
      (s, effects, .ok request) := by
  obtain ⟨peerCount, hpeer⟩ := { s with dialog := some dialog.advance }.advancePeer_eq
    dialog.advance.callId dialog.advance.cSeq
  have hadvance : dialog.advance.read = .ok reading :=
    (Dialog.read_congr rfl rfl rfl rfl).trans hread
  unfold createReinvite
  simp only [hdialog]
  generalize { s with dialog := some dialog.advance }.advancePeer dialog.advance.callId
    dialog.advance.cSeq = peered at hpeer ⊢
  obtain ⟨next, effects⟩ := peered
  dsimp only at hpeer
  subst hpeer
  refine ⟨peerCount, effects, ?_⟩
  rw [Dialog.reinvite_eq, hadvance]
  rfl

/-- To build a re-INVITE leaves the setup. -/
theorem setup_createReinvite (s : Service) (offer : Description) :
    (s.createReinvite offer).1.setup = s.setup := by
  unfold createReinvite
  split
  · rfl
  · next dialog hdialog =>
    dsimp only
    obtain ⟨peerCount, hpeer⟩ := { s with dialog := some dialog.advance }.advancePeer_eq
      dialog.advance.callId dialog.advance.cSeq
    rw [hpeer]
    split
    · rfl
    · exact setup_authorize _ _

/-- To take in what came of a re-INVITE leaves the setup. -/
theorem setup_takeReply (s : Service) (task : TaskId) (request : Sip.Request) (context : Context)
    (retried : Bool) (reply : Delivery Sip.Response) :
    (s.takeReply task request context retried reply).1.setup = s.setup := by
  unfold takeReply
  split
  · unfold takeResponse
    split
    · unfold takeAcceptance
      dsimp only
      split
      · rfl
      · split <;> rfl
    · rfl
    · rfl
    · split
      · rfl
      · unfold answerProxy
        split
        · rfl
        · split
          · rfl
          · next agent _ =>
            dsimp only
            have hcreate := { s with proxy := some agent }.setup_createReinvite
              ⟨s.featureTags, request.content?.getD ""⟩
            split
            · next heq => exact (congrArg (·.1.setup) heq).symm.trans hcreate
            · next heq => exact (congrArg (·.1.setup) heq).symm.trans hcreate
    · rfl
  · rfl
  · rfl

/-- **What a session is set up with stays.** No act changes it. -/
theorem setup_act (s : Service) (act : Act) : (s.act act).1.setup = s.setup := by
  cases act with
  | created offer => exact s.setup_createReinvite offer
  | prepared | accepted | rejected => rfl
  | moved target =>
    simp only [Service.act, setState]
    by_cases hsame : s.state = target
    · simp only [hsame, if_true]
    · simp only [hsame, if_false]
      cases s.state.check target <;> rfl
  | happened now event =>
    cases event with
    | offered task request context => rfl
    | received task request reply context => exact setup_look _ now task
    | accepted task request reply => exact s.setup_sendAcceptance ..
    | awaited task period => exact setup_look _ now task
    | looked task => exact s.setup_look now task
    | replied task reply =>
      simp only [Service.act, step]
      split
      · exact s.setup_takeReply ..
      · rfl
    | acked task =>
      simp only [Service.act, step]
      split <;> rfl
    | responded task ended =>
      simp only [Service.act, step]
      split
      · unfold takeResponded
        split
        · rfl
        · exact s.setup_concludeAcceptance ..
        · rfl
        · rfl
      · rfl
    | confirmed task ended =>
      simp only [Service.act, step]
      split
      · unfold takeConfirmation
        split <;> exact s.setup_concludeAcceptance ..
      · rfl

/-- Nor does any run. -/
theorem setup_after (s : Service) (acts : List Act) : (s.after acts).setup = s.setup := by
  induction acts generalizing s with
  | nil => rfl
  | cons act acts ih => exact (ih (s.act act).1).trans (s.setup_act act)

/-! ### Credentials -/

/-- The header that carries credentials for the proxy. -/
def proxyHeader (credentials : String) : Sip.Header := .ofText "Proxy-Authorization" credentials

/-- The name of that header. -/
@[simp] theorem name_proxyHeader (credentials : String) :
    (proxyHeader credentials).name = "Proxy-Authorization" := by
  rw [proxyHeader, Sip.Header.name_ofText]
  decide +kernel

/-- A request is another one, with credentials for the proxy or without. -/
structure Restates (plain request : Sip.Request) : Prop where
  method : request.method = plain.method
  uri : request.uri = plain.uri
  body : request.body = plain.body
  headers : ∀ p : Sip.Header → Bool,
    (∀ header : Sip.Header, header.name = "Proxy-Authorization" → p header = false) →
      request.headers.filter p = plain.headers.filter p

/-- Credentials for the proxy leave the rest of a request. -/
theorem restates_replace (request : Sip.Request) (credentials : String) :
    Restates request (request.replace (proxyHeader credentials)) where
  method := rfl
  uri := rfl
  body := rfl
  headers p hother := by
    have hproxy : p (proxyHeader credentials) = false := hother _ (name_proxyHeader credentials)
    simp only [Sip.Request.replace, Sip.Headers.replace, name_proxyHeader, List.filter_append,
      List.filter_filter, List.filter_cons, hproxy, List.filter_nil, List.append_nil,
      Bool.false_eq_true, if_false]
    refine List.filter_congr fun header _ => ?_
    by_cases hname : header.name = "Proxy-Authorization"
    · simp [hother header hname]
    · simp [hname]

/-- They are the only ones that the request has then. -/
theorem filter_replace_proxyHeader (request : Sip.Request) (credentials : String) :
    (request.replace (proxyHeader credentials)).headers.filter (·.name = "Proxy-Authorization") =
      [proxyHeader credentials] := by
  refine Sip.Headers.filter_replace (decide_eq_true (name_proxyHeader credentials)) ?_
  intro other _ hname
  rw [name_proxyHeader] at hname
  exact decide_eq_false hname

/-- The request as the session sends it is the request that was built, with credentials or without
them. -/
theorem restates_authorize (s : Service) (request : Sip.Request) :
    Restates request (s.authorize request).2 := by
  unfold authorize
  split
  · exact ⟨rfl, rfl, rfl, fun _ _ => rfl⟩
  · dsimp only
    split
    · exact restates_replace request _
    · exact ⟨rfl, rfl, rfl, fun _ _ => rfl⟩

/-- With a challenge at hand the request gets the credentials that answer it. -/
theorem authorize_eq {s : Service} {agent : Digest.Agent} {challenge : Digest.Challenge}
    (hproxy : s.proxy = some { agent with held := some ⟨challenge, 0⟩ })
    (request : Sip.Request) :
    (s.authorize request).2 = request.replace (proxyHeader (agent.credentials challenge
      (Digest.Agent.countText 1) (Digest.Agent.clientNonceText (agent.drawn + 1)) request.method
      (request.uri.text .plain))) := by
  simp only [authorize, hproxy]
  rfl

/-! ### The retry -/

/-- The challenge of the proxy is answered by an offer that is built of the dialog as it stands,
with the tags of the session and the credentials that answer the challenge. -/
theorem retry_eq {s : Service} {task : TaskId} {request : Sip.Request} {context : Context}
    {agent : Digest.Agent} {response : Sip.Response} {challenge : Digest.Challenge}
    {dialog : Dialog} {reading : Dialog.Reading}
    (hstage : s.stage? task = some (.offering request context false))
    (hproxy : s.proxy = some agent) (hstatus : response.status = 407)
    (hchallenge : Digest.Challenge.ofResponse response "Proxy-Authenticate" = .ok challenge)
    (hdialog : s.dialog = some dialog) (hread : dialog.read = .ok reading) (now : Instant) :
    let plain := reading.offer dialog.advance s.bound s.featureTags (request.content?.getD "")
      (s.supply.draw .branch).1
    (s.step now (.replied task (.done response))).2.filterMap Effect.sent? =
      [plain.replace (proxyHeader (agent.credentials challenge (Digest.Agent.countText 1)
        (Digest.Agent.clientNonceText (agent.drawn + 1)) plain.method (plain.uri.text .plain)))] := by
  intro plain
  have hagent : agent.readChallenge response "Proxy-Authenticate" =
      .ok { agent with held := some ⟨challenge, 0⟩ } := by
    simp only [Digest.Agent.readChallenge, hchallenge]
    rfl
  simp only [step, hstage, takeReply, takeResponse, hstatus, answerProxy, hproxy, hagent,
    Bool.false_eq_true, if_false]
  generalize hready : { s with proxy := some { agent with held := some ⟨challenge, 0⟩ } } = ready
  generalize hagain : (⟨s.featureTags, request.content?.getD ""⟩ : Description) = again
  obtain ⟨peerCount, effects, hcreate⟩ := createReinvite_eq (s := ready) again
    (by rw [← hready]; exact hdialog) hread
  have hsilent := (ready.createReinvite_silent again).1
  rw [hcreate] at hsilent ⊢
  dsimp only [offer] at hsilent ⊢
  rw [List.filterMap_append, hsilent, List.nil_append]
  subst hready hagain
  exact congrArg (· :: []) (authorize_eq rfl plain)

/-- A re-INVITE that was built is the offer of the dialog at its next number. -/
theorem offered_of_made {s : Service} {offer : Description} {request : Sip.Request}
    (hmade : (s.createReinvite offer).2.2 = .ok request) :
    ∃ dialog reading branch, s.dialog = some dialog ∧ dialog.read = .ok reading ∧
      Restates (reading.offer dialog.advance s.bound offer.featureTags offer.content branch)
        request := by
  cases hdialog : s.dialog with
  | none =>
    rw [createReinvite_of_no_dialog offer hdialog] at hmade
    cases hmade
  | some dialog =>
    cases hread : dialog.read with
    | error e =>
      have hok := (createReinvite_spec offer hdialog).2.2.2.1
      rw [hmade, hread] at hok
      cases hok
    | ok reading =>
      obtain ⟨peerCount, effects, hcreate⟩ := createReinvite_eq offer hdialog hread
      rw [hcreate] at hmade
      cases hmade
      exact ⟨dialog, reading, _, rfl, hread, restates_authorize _ _⟩

/-- Two offers of a dialog at numbers one after another, with the same content: they differ in
number and branch, and are otherwise the same but for the feature tags. -/
theorem Restates.compare {reading : Dialog.Reading} {dialog : Dialog} {bound : Endpoint}
    {tags others : List String} {content : String} {first second : Identifier}
    {request again : Sip.Request}
    (hrequest : Restates (reading.offer dialog bound tags content first) request)
    (hagain : Restates (reading.offer dialog.advance bound others content second) again) :
    (again.method = request.method ∧ again.uri = request.uri ∧ again.body = request.body) ∧
    (request.headers.filter (·.name = "Via") = [.via [Dialog.hop bound first]] ∧
      again.headers.filter (·.name = "Via") = [.via [Dialog.hop bound second]]) ∧
    again.headers.filter (fun header => header.name ∉ Dialog.renewed ++ Dialog.tagged) =
      request.headers.filter (fun header => header.name ∉ Dialog.renewed ++ Dialog.tagged) ∧
    (again.headers.filter (fun header => header.name ∉ Dialog.renewed) =
        request.headers.filter (fun header => header.name ∉ Dialog.renewed) ↔ tags = others) := by
  have hvia (header : Sip.Header) (hname : header.name = "Proxy-Authorization") :
      decide (header.name = "Via") = false := by simp [hname]
  have hcommon (header : Sip.Header) (hname : header.name = "Proxy-Authorization") :
      decide (header.name ∉ Dialog.renewed ++ Dialog.tagged) = false := by
    simp [hname, Dialog.renewed]
  have hlasting (header : Sip.Header) (hname : header.name = "Proxy-Authorization") :
      decide (header.name ∉ Dialog.renewed) = false := by
    simp [hname, Dialog.renewed]
  refine ⟨⟨?_, ?_, ?_⟩, ⟨?_, ?_⟩, ?_, ?_⟩
  · exact hagain.method.trans hrequest.method.symm
  · exact hagain.uri.trans hrequest.uri.symm
  · exact hagain.body.trans hrequest.body.symm
  · rw [hrequest.headers _ hvia, reading.via_offer]
  · rw [hagain.headers _ hvia, reading.via_offer]
  · rw [hagain.headers _ hcommon, hrequest.headers _ hcommon, reading.common_offer,
      reading.common_offer]
    rfl
  · rw [hagain.headers _ hlasting, hrequest.headers _ hlasting, reading.lasting_offer,
      reading.lasting_offer]
    constructor
    · intro hsame
      have htags := List.append_cancel_left hsame
      simp only [List.cons_append, List.nil_append, List.cons.injEq, true_and] at htags
      exact (Dialog.contact_wanted_inj.mp htags).symm
    · rintro rfl
      rfl

/-- **Whether the retry is the same offer.** Let a re-INVITE be built on a session with any feature
tags and content, let the proxy challenge it while it waits for its response, and let nothing have
touched the dialog in between. Then one more re-INVITE is sent, with credentials for the proxy and
the next number; it has the same Request-URI and body, and every header of the first one except Via,
CSeq, Contact and Accept-Contact, where the Via differs in the branch only. It has the Contact and
the Accept-Contact of the first one as well exactly if that one offered the feature tags of the
session. -/
theorem same_offer_iff {s : Service} {offer : Description} {request : Sip.Request}
    (hmade : (s.createReinvite offer).2.2 = .ok request) {between : List Act} {later : Service}
    (hlater : s.after (.created offer :: between) = later)
    (hdialog : later.dialog = (s.act (.created offer)).1.dialog)
    {task : TaskId} {context : Context}
    (hstage : later.stage? task = some (.offering request context false))
    {agent : Digest.Agent} (hproxy : later.proxy = some agent)
    {response : Sip.Response} {challenge : Digest.Challenge} (hstatus : response.status = 407)
    (hchallenge : Digest.Challenge.ofResponse response "Proxy-Authenticate" = .ok challenge)
    (now : Instant) :
    ∃ again,
      (later.step now (.replied task (.done response))).2.filterMap Effect.sent? = [again] ∧
      again.method = request.method ∧ again.uri = request.uri ∧ again.body = request.body ∧
      (∃ number, request.cSeq? = some number ∧ again.cSeq? = some (number + 1)) ∧
      (∃ first second,
        request.headers.filter (·.name = "Via") = [.via [Dialog.hop s.bound first]] ∧
        again.headers.filter (·.name = "Via") = [.via [Dialog.hop s.bound second]]) ∧
      again.headers.filter (·.name = "Proxy-Authorization") =
        [proxyHeader (agent.credentials challenge (Digest.Agent.countText 1)
          (Digest.Agent.clientNonceText (agent.drawn + 1)) .invite (again.uri.text .plain))] ∧
      again.headers.filter
          (fun header => header.name ∉ Dialog.renewed ++ Dialog.tagged) =
        request.headers.filter
          (fun header => header.name ∉ Dialog.renewed ++ Dialog.tagged) ∧
      (again.headers.filter (fun header => header.name ∉ Dialog.renewed) =
          request.headers.filter (fun header => header.name ∉ Dialog.renewed) ↔
        offer.featureTags = s.featureTags) := by
  obtain ⟨dialog, reading, first, hcurrent, hread, hfirst⟩ := offered_of_made hmade
  obtain ⟨hadvanced, _, _, _, hcarries⟩ := createReinvite_spec offer hcurrent
  have hstanding : later.dialog = some dialog.advance := hdialog.trans hadvanced
  have hreadAgain : dialog.advance.read = .ok reading :=
    (Dialog.read_congr rfl rfl rfl rfl).trans hread
  have hsetup : later.setup = s.setup := hlater ▸ s.setup_after _
  have hbound : later.bound = s.bound := congrArg Setup.bound hsetup
  have htags : later.featureTags = s.featureTags := congrArg Setup.featureTags hsetup
  have hcontent : request.content?.getD "" = offer.content := by
    have hbody : request.body = .text offer.content := hfirst.body
    rw [Sip.Request.content?, hbody, Sip.Body.getD_content?]
  have hsent := retry_eq hstage hproxy hstatus hchallenge hstanding hreadAgain now
  rw [hcontent, hbound, htags] at hsent
  have hnumber := Dialog.Reading.carries_offer
    (show dialog.advance.advance.read = .ok reading from hreadAgain) s.bound s.featureTags
    offer.content later.supply
  obtain ⟨⟨hmethod, huri, hbody⟩, hvia, hcommon, hlasting⟩ := hfirst.compare (restates_replace _ _)
  refine ⟨_, hsent, hmethod, huri, hbody, ⟨_, (hcarries request hmade).cSeq, ?_⟩, ⟨_, _, hvia⟩,
    filter_replace_proxyHeader _ _, hcommon, hlasting⟩
  exact (hnumber.replace (by simp [Dialog.identifying])).cSeq

/-- A session with credentials for the proxy and without feature tags, for the examples. -/
def sampleProxied : Service :=
  { sample with proxy := some { username := "c", password := "secret" } }

/-- The re-INVITE that is built on it for an offer. -/
def sampleMade (offer : Description) : Sip.Request :=
  match (sampleProxied.createReinvite offer).2.2 with
  | .ok request => request
  | .error _ => default

/-- An example: an offer is built and sent. -/
def sampleOffered (offer : Description) : List Act :=
  [.created offer, .happened 0 (.offered 0 (sampleMade offer) .mediaUpdate)]

/-- The challenge of a proxy. -/
def sampleChallenge : Sip.Response where
  status := 407
  headers := [.raw "Proxy-Authenticate" "Digest realm=\"a\", nonce=\"n\""]

/-- In the example, an offer without feature tags is made again as it was. -/
theorem plain_offer_made_again_in_sample :
    ∃ again,
      ((sampleProxied.after (sampleOffered {})).step 1
        (.replied 0 (.done sampleChallenge))).2.filterMap Effect.sent? = [again] ∧
      again.headers.filter (fun header => header.name ∉ Dialog.renewed) =
        (sampleMade {}).headers.filter (fun header => header.name ∉ Dialog.renewed) := by
  have hmade : (sampleProxied.createReinvite {}).2.2 = .ok (sampleMade {}) := by
    decide +kernel
  have hstage : (sampleProxied.after (sampleOffered {})).stage? 0 =
      some (.offering (sampleMade {}) .mediaUpdate false) := by decide +kernel
  have hproxy : (sampleProxied.after (sampleOffered {})).proxy =
      some { username := "c", password := "secret" } := by decide +kernel
  have hchallenge : Digest.Challenge.ofResponse sampleChallenge "Proxy-Authenticate" =
      .ok { realm := "a", nonce := "n" } := by decide +kernel
  obtain ⟨again, hsent, _, _, _, _, _, _, _, hsame⟩ := same_offer_iff hmade rfl (by decide +kernel)
    hstage hproxy (show sampleChallenge.status = 407 from rfl) hchallenge 1
  exact ⟨again, hsent, hsame.mpr rfl⟩

/-- But an offer of a feature tag is made again without it, in the Contact and in the
Accept-Contact. -/
theorem retry_drops_feature_tag :
    let offer : Description := ⟨["+g.oma.sip-im"], "v=0"⟩
    let later := sampleProxied.after (sampleOffered offer)
    sampleMade offer ∈ sampleProxied.made (.created offer) ∧
      later.dialog = (sampleProxied.act (.created offer)).1.dialog ∧
      later.stage? 0 = some (.offering (sampleMade offer) .mediaUpdate false) ∧
      (sampleMade offer).headers.filter (·.name ∈ Dialog.tagged) =
        [Dialog.contact sample.bound none ["+g.oma.sip-im"],
          .ofText "Accept-Contact" "*;+g.oma.sip-im"] ∧
      ((later.step 1 (.replied 0 (.done sampleChallenge))).2.filterMap Effect.sent?).map
          (·.headers.filter (·.name ∈ Dialog.tagged)) =
        [[Dialog.contact sample.bound none []]] := by
  decide +kernel

end Service

end Session

end ImsClient
