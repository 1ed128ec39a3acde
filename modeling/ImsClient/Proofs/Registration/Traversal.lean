import ImsClient.Proofs.Dialog.Origin
import ImsClient.Proofs.Net.Address
import ImsClient.Registration.Grant

/-!
# The verdict on the own hop

A request says in its Via where it was sent from, and the registrar writes into that hop where
it saw the request come from. A client that gets its hop back as it wrote it is told of no NAT,
and one that gets it back filled in is told of a NAT exactly if another address or port was
seen, whatever the versions of the two addresses and the texts that they have.
-/

namespace ImsClient

namespace Sip.Hop

/-- The parameter `rport` of a sent hop, with the port that was seen as its value. -/
def fillPort (port : Nat) (param : Param) : Param :=
  if param = .rport none then .rport (some port) else param

/-- A hop comes back as it was sent, but for the address and the port that it was seen at: the port
stands in its empty `rport`, and the address in one parameter more, in whatever order. -/
structure SeenAt (sent : Hop) (ip : IpAddress) (number : Nat) (seen : Hop) : Prop where
  host : seen.host = sent.host
  port : seen.port = sent.port
  params : seen.params.Perm (.received ip :: sent.params.map (fillPort number))

end Sip.Hop

namespace Registration.NatStatus

variable {bound : Endpoint} {branch : Identifier}

/-- A client that sees its own address and port is told of no NAT. -/
theorem ofSeen_self (bound : Endpoint) : ofSeen bound.ip.text bound.port bound = {} := by
  have hsame : sameHost bound.ip.text bound.ip.text = true := by
    unfold sameHost
    split
    · next x y hx hy => simp [Option.some.inj (hx.symm.trans hy)]
    · exact Text.alike_refl _
  simp [ofSeen, hsame]

/-- An address and a port that were seen are compared with those that the client is bound to. -/
theorem ofSeen_text {ip : IpAddress} (hip : ip.IsWhole) (hbound : bound.ip.IsWhole) (port : Nat) :
    ofSeen ip.text port bound =
      if ip = bound.ip ∧ port = bound.port then {}
      else { behindNat := true, address := some ip.text, port := some port } := by
  have hhost : sameHost ip.text bound.ip.text = decide (ip = bound.ip) := by
    rw [Bool.eq_iff_iff, IpAddress.sameHost_text_iff hip hbound, decide_eq_true_iff]
  simp only [ofSeen, hhost]
  by_cases hsame : ip = bound.ip <;> by_cases hport : port = bound.port <;> simp [hsame, hport]

/-- The own hop as it was sent tells of no NAT. -/
theorem detect_sent (others : List Sip.Hop) :
    detect (Dialog.hop bound branch :: others) bound = {} :=
  ofSeen_self bound

/-- The own hop, filled in, tells the address and the port that were seen. -/
theorem detect_seen {ip : IpAddress} {port : Nat} {seen : Sip.Hop}
    (h : (Dialog.hop bound branch).SeenAt ip port seen) (others : List Sip.Hop) :
    detect (seen :: others) bound = ofSeen ip.text port bound := by
  -- Of its parameters only one tells an address, and only one a port.
  have hfound {α : Type} {select : Sip.Param → Option α} {x : α}
      (hselect : [Sip.Param.received ip, .branch branch, .rport (some port)].filterMap select =
        [x]) : seen.params.findSome? select = some x := by
    have hperm := h.params.filterMap select
    have hsent : (Dialog.hop bound branch).params.map (Sip.Hop.fillPort port) =
        [.branch branch, .rport (some port)] := by
      simp [Dialog.hop, Sip.Hop.fillPort]
    rw [hsent, hselect] at hperm
    rw [← List.head?_filterMap, List.perm_singleton.mp hperm]
    rfl
  have hreceived : seen.received? = some ip := hfound rfl
  have hrport : seen.rport? = some port := by
    unfold Sip.Hop.rport?
    rw [hfound (x := some port) rfl]
    rfl
  simp [detect, hreceived, hrport]

/-- **The verdict on the own hop.** Of every request that a client builds where it is bound, the
first Via has a hop of its own. A response with that hop in front, as it was sent, tells of no NAT.
One with that hop filled in tells of a NAT exactly if another address or another port was seen than
the client is bound to; it then tells just these two, and nothing otherwise. -/
theorem own_hop_tells {dialog : Dialog} {request : Sip.Request}
    (hbuilt : dialog.Builds bound request) (hbound : bound.ip.IsWhole) :
    ∃ own, Sip.Headers.topVia? request.headers = some [own] ∧
      ∀ (response : Sip.Response) (instanceId : Option String) (others : List Sip.Hop),
        let nat := (Grant.ofResponse response instanceId bound).nat
        (Sip.Headers.topVia? response.headers = some (own :: others) → nat = {}) ∧
        ∀ ip port seen, ip.IsWhole → own.SeenAt ip port seen →
          Sip.Headers.topVia? response.headers = some (seen :: others) →
          (nat.behindNat = true ↔ ip ≠ bound.ip ∨ port ≠ bound.port) ∧
          nat = if nat.behindNat then
              { behindNat := true, address := some ip.text, port := some port } else {} := by
  obtain ⟨branch, hvia⟩ := hbuilt.topVia?
  refine ⟨Dialog.hop bound branch, hvia, fun response instanceId others => ⟨?_, ?_⟩⟩
  · intro hsent
    simp only [Grant.ofResponse, hsent, Option.getD_some, detect_sent]
  · intro ip port seen hip hseen hresponse
    simp only [Grant.ofResponse, hresponse, Option.getD_some, detect_seen hseen,
      ofSeen_text hip hbound]
    by_cases hsame : ip = bound.ip ∧ port = bound.port
    · simp [hsame]
    · rw [if_neg hsame]
      refine ⟨?_, by simp⟩
      rw [not_and_or] at hsame
      simpa using hsame

/-- Where the client of the example is bound. -/
def sampleBound : Endpoint := ⟨.v6 [0xFE80, 0, 0, 0, 0, 0, 0, 2], 5060⟩

/-- A request that it builds. -/
def sampleAck : Sip.Request :=
  match Dialog.sample.ack sampleBound {} with
  | .ok (request, _) => request
  | .error _ => default

/-- In the example, the client gets the hop of its request back with its own address, but with
another port. -/
theorem other_port_tells_in_sample :
    let own := Dialog.hop sampleBound (.drawn ⟨0, 0⟩ .branch)
    let seen : Sip.Hop :=
      { own with params := .rport (some 40000) :: own.params.take 1 ++ [.received sampleBound.ip] }
    let nat :=
      (Grant.ofResponse { status := 200, headers := [.via [seen]] } none sampleBound).nat
    Dialog.sample.Builds sampleBound sampleAck ∧ sampleBound.ip.IsWhole ∧
      own.SeenAt sampleBound.ip 40000 seen ∧
      nat = { behindNat := true, address := some "fe80::2", port := some 40000 } := by
  intro own seen nat
  have hmade : Dialog.sample.ack sampleBound {} = .ok (sampleAck, { taken := 1 }) := by
    decide +kernel
  have hbuilt : Dialog.sample.Builds sampleBound sampleAck := .ack hmade
  have hbound : sampleBound.ip.IsWhole := by decide
  have hseen : own.SeenAt sampleBound.ip 40000 seen := ⟨rfl, rfl, by decide⟩
  have hown : Sip.Headers.topVia? sampleAck.headers = some [own] := by decide +kernel
  obtain ⟨first, hfirst, htold⟩ := own_hop_tells hbuilt hbound
  obtain rfl : own = first := by
    rw [hown] at hfirst
    simpa using hfirst
  obtain ⟨hnat, htells⟩ := (htold { status := 200, headers := [.via [seen]] } none []).2
    sampleBound.ip 40000 seen hbound hseen rfl
  have hbehind : nat.behindNat = true := hnat.mpr (.inr (by decide))
  rw [if_pos hbehind] at htells
  refine ⟨hbuilt, hbound, hseen, htells.trans ?_⟩
  decide +kernel

end Registration.NatStatus

end ImsClient
