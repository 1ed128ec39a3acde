import ImsClient.Proofs.Dialog.Request
import ImsClient.Registration.Procedure

/-!
# The credentials of a REGISTER

Credentials are written as one text. It is put together here of its fields, so that
what a request says of its sender, and which challenge it answers, can be told field
by field. Of the headers of a REGISTER that is built of a dialog none carries
credentials, so the one that the procedure writes is the only one.
-/

namespace ImsClient

namespace Digest

/-- The fields of credentials. Those that only an answer to a challenge has may be missing. -/
structure Credentials where
  username : String
  realm : String
  nonce : String
  uri : String
  response : String
  algorithm : Option String := none
  /-- The nonce count and the client nonce, for the quality of protection "auth". -/
  auth : Option (String × String) := none
  opaqueData : Option String := none
deriving DecidableEq

namespace Credentials

/-- Credentials as they are written in a request. -/
def text (credentials : Credentials) : String :=
  "Digest username=\"" ++ credentials.username ++ "\",realm=\"" ++ credentials.realm ++
    "\",nonce=\"" ++ credentials.nonce ++ "\",uri=\"" ++ credentials.uri ++ "\",response=\"" ++
    credentials.response ++ "\"" ++
    (match credentials.algorithm with
      | some algorithm => ",algorithm=" ++ algorithm
      | none => "") ++
    (match credentials.auth with
      | some (count, clientNonce) => ",cnonce=\"" ++ clientNonce ++ "\",nc=" ++ count ++ ",qop=auth"
      | none => "") ++
    (match credentials.opaqueData with
      | some data => ",opaque=\"" ++ data ++ "\""
      | none => "")

/-- The credentials of a client for a request: before a challenge they only say who sends it, and
then they answer the challenge that is held. -/
def of (username password realm : String) (held : Option Held) (clientNonce : String)
    (method : Sip.Method) (uri : String) : Credentials :=
  match held with
  | none => { username, realm, nonce := "", uri, response := "" }
  | some ⟨challenge, count⟩ =>
    let auth :=
      if challenge.offersAuth then some (Agent.countText (count + 1), clientNonce) else none
    { username
      realm := challenge.realm
      nonce := challenge.nonce
      uri
      response :=
        Digest.response username password challenge.realm challenge.nonce method.text uri auth
      algorithm := some "MD5"
      auth
      opaqueData := challenge.opaqueData }

end Credentials

/-- One more answer was made with what is held. -/
def Held.used (held : Held) : Held := { held with count := held.count + 1 }

/-- Before a challenge, empty credentials are written. -/
theorem Credentials.text_of_none (username password realm clientNonce : String)
    (method : Sip.Method) (uri : String) :
    (Credentials.of username password realm none clientNonce method uri).text =
      Registration.Procedure.emptyCredentials username realm uri := by
  have hnonce : "\",nonce=\"\",uri=\"" = "\",nonce=\"" ++ "\",uri=\"" := by decide +kernel
  have hresponse : "\",response=\"\"" = "\",response=\"" ++ "\"" := by decide +kernel
  unfold Credentials.of Credentials.text Registration.Procedure.emptyCredentials
  dsimp only
  rw [hnonce, hresponse]
  simp only [String.append_empty, String.append_assoc]

/-- After a challenge, it is answered. -/
theorem Credentials.text_of_some (agent : Agent) (realm : String) (held : Held)
    (clientNonce : String) (method : Sip.Method) (uri : String) :
    (Credentials.of agent.username agent.password realm (some held) clientNonce method uri).text =
      agent.credentials held.challenge (Agent.countText (held.count + 1)) clientNonce method
        uri := by
  have halgorithm : "\",algorithm=MD5" = "\"" ++ (",algorithm=" ++ "MD5") := by decide +kernel
  obtain ⟨⟨realm', nonce, opaqueData, offersAuth, stale⟩, count⟩ := held
  unfold Credentials.of Credentials.text Agent.credentials
  dsimp only
  rw [halgorithm]
  -- The two fields that may be missing.
  cases offersAuth <;> cases opaqueData <;>
    simp only [Bool.false_eq_true, if_true, if_false, String.append_empty, String.append_assoc]

/-- An agent answers with credentials for what it holds, and not at all if it holds nothing. -/
theorem Agent.authorization_answer (agent : Agent) (realm : String) (method : Sip.Method)
    (uri : String) :
    (agent.authorization method uri).1 =
      agent.held.map fun held =>
        (Credentials.of agent.username agent.password realm (some held)
          (clientNonceText (agent.drawn + 1)) method uri).text := by
  cases hheld : agent.held with
  | none => simp only [authorization, hheld, Option.map_none]
  | some held =>
    rw [Option.map_some, Credentials.text_of_some]
    simp only [authorization, hheld]

/-- What an agent writes into a request are the credentials for what it holds, and what it holds is
used once more. -/
theorem Agent.authorization_eq (agent : Agent) (realm : String) (method : Sip.Method)
    (uri : String) :
    ∃ clientNonce drawn,
      (agent.authorization method uri).1.getD
          (Registration.Procedure.emptyCredentials agent.username realm uri) =
        (Credentials.of agent.username agent.password realm agent.held clientNonce method
          uri).text ∧
      (agent.authorization method uri).2 =
        { agent with held := agent.held.map Held.used, drawn := drawn } := by
  cases hheld : agent.held with
  | none =>
    refine ⟨"", agent.drawn, ?_, ?_⟩
    · rw [Credentials.text_of_none]
      simp only [authorization, hheld, Option.getD_none]
    · simp only [authorization, hheld, Option.map_none]
      rw [← hheld]
  | some held =>
    refine ⟨clientNonceText (agent.drawn + 1), agent.drawn + 1, ?_, ?_⟩
    · rw [Credentials.text_of_some]
      simp only [authorization, hheld, Option.getD_some]
    · simp only [authorization, hheld, Option.map_some, Held.used]

end Digest

namespace Dialog

/-- A REGISTER that is built of a dialog carries no credentials yet. -/
theorem bare_of_register {dialog : Dialog} {bound : Endpoint} {expiry : Nat}
    {instanceId : Option String} {featureTags : List String} {supply supply' : Supply}
    {made : Sip.Request}
    (hmade : dialog.register bound expiry instanceId featureTags supply = .ok (made, supply')) :
    made.method = .register ∧
      ∀ header ∈ made.headers, header.isNamed "Authorization" = false := by
  have hothers : ∀ name ∈ ["Via", "Max-Forwards", "From", "To", "Call-ID", "CSeq", "Route",
      "Contact", "Expires", "Supported"], Text.alike name "Authorization" = false := by
    decide +kernel
  have hsupported : (Sip.Header.ofText "Supported" "path,gruu").name = "Supported" := by
    rw [Sip.Header.name_ofText]
    decide +kernel
  unfold register at hmade
  rw [request_eq] at hmade
  cases hread : dialog.read with
  | error e =>
    rw [hread] at hmade
    cases hmade
  | ok reading =>
    rw [hread] at hmade
    cases hmade
    refine ⟨rfl, fun header hheader => ?_⟩
    simp only [Sip.Request.add, Reading.request, contact, List.append_assoc, List.cons_append,
      List.nil_append, List.mem_cons, List.mem_append, List.mem_map, List.not_mem_nil,
      or_false] at hheader
    refine hothers header.name ?_
    by_cases hlast : header = .ofText "Supported" "path,gruu"
    · rw [hlast, hsupported]
      simp
    · simp only [hlast, or_false] at hheader
      rcases hheader with rfl | rfl | rfl | rfl | rfl | rfl | ⟨_, _, rfl⟩ | rfl | rfl <;>
        simp [Sip.Header.name]

end Dialog

namespace Registration

/-- The name of the header that carries credentials. -/
theorem authorization_name (value : String) :
    (Sip.Header.ofText "Authorization" value).name = "Authorization" := by
  rw [Sip.Header.name_ofText]
  decide +kernel

/-- Credentials that are written into a request without any are the only ones. -/
theorem filter_replace_authorization {request : Sip.Request} (value : String)
    (hbare : ∀ header ∈ request.headers, header.isNamed "Authorization" = false) :
    (request.replace (.ofText "Authorization" value)).headers.filter
      (Sip.Header.isNamed "Authorization") = [.ofText "Authorization" value] := by
  have hnamed : (Sip.Header.ofText "Authorization" value).isNamed "Authorization" = true := by
    rw [Sip.Header.isNamed, authorization_name]
    exact Text.alike_refl _
  exact Sip.Headers.filter_replace hnamed fun other hother _ => hbare other hother

/-- Digest never refuses a request: it writes credentials for what its agent holds into it. -/
theorem Procedure.write_digest (agent : Digest.Agent) (realm : String) (request : Sip.Request) :
    ∃ clientNonce drawn,
      Procedure.write request (.digest agent realm) =
        (.ok (request.replace (.ofText "Authorization" (Digest.Credentials.of agent.username
            agent.password realm agent.held clientNonce request.method
            (request.uri.text .plain)).text)),
          .digest { agent with held := agent.held.map Digest.Held.used, drawn := drawn }
            realm) := by
  obtain ⟨clientNonce, drawn, hvalue, hagent⟩ :=
    agent.authorization_eq realm request.method (request.uri.text .plain)
  have hname : (agent.authorization request.method (request.uri.text .plain)).2.username =
      agent.username := by rw [hagent]
  refine ⟨clientNonce, drawn, ?_⟩
  simp only [Procedure.write, hname, hvalue]
  rw [hagent]

end Registration

end ImsClient
