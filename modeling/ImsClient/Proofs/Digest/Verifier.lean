import ImsClient.Proofs.Digest.Credentials
import ImsClient.Proofs.Digest.Parameters
import ImsClient.Proofs.Text.Numerals

/-!
# What a server makes of credentials

A server takes credentials apart into their parameters, and computes the response anew
from what it reads. The client writes the texts that it was given between quotes as they
are, so a server learns them exactly if they fit there. Then the response that it reads
is the one that it computes.
-/

namespace ImsClient.Digest

/-! ### Credentials as parameters -/

/-- The parameters of credentials, if there is nothing else in them. -/
def Quoting.params? (quoting : Quoting) (credentials : String) :
    Option (List (String × String)) := do
  match ← Sip.Challenge.readList? quoting.param? (← Sip.word? "Digest " credentials.toList) with
  | (params, []) => return params
  | _ => none

namespace Credentials

/-- The parameters of credentials behind the first one. -/
def furtherFields (credentials : Credentials) : List Field :=
  [⟨"realm", credentials.realm, true⟩, ⟨"nonce", credentials.nonce, true⟩,
      ⟨"uri", credentials.uri, true⟩, ⟨"response", credentials.response, true⟩] ++
    (match credentials.algorithm with
      | some algorithm => [⟨"algorithm", algorithm, false⟩]
      | none => []) ++
    (match credentials.auth with
      | some (count, clientNonce) =>
        [⟨"cnonce", clientNonce, true⟩, ⟨"nc", count, false⟩, ⟨"qop", "auth", false⟩]
      | none => []) ++
    (match credentials.opaqueData with
      | some data => [⟨"opaque", data, true⟩]
      | none => [])

/-- The parameters of credentials. -/
def fields (credentials : Credentials) : List Field :=
  ⟨"username", credentials.username, true⟩ :: credentials.furtherFields

/-- Credentials are written parameter by parameter. -/
theorem toList_text (credentials : Credentials) :
    credentials.text.toList =
      "Digest ".toList ++ ((⟨"username", credentials.username, true⟩ : Field).chars ++
        Field.row credentials.furtherFields) := by
  obtain ⟨username, realm, nonce, uri, response, algorithm, auth, opaqueData⟩ := credentials
  unfold text furtherFields
  cases algorithm <;> cases auth <;> cases opaqueData <;>
    simp [Field.row, Field.chars, Field.shown]

/-- No parameter is written twice. -/
theorem nodup_names (credentials : Credentials) :
    (credentials.fields.map Field.name).Nodup := by
  obtain ⟨username, realm, nonce, uri, response, algorithm, auth, opaqueData⟩ := credentials
  unfold fields furtherFields
  cases algorithm <;> cases auth <;> cases opaqueData <;> simp

/-- What holds of all parameters of credentials. -/
theorem forall_fields (credentials : Credentials) (P : Field → Prop) :
    (∀ field ∈ credentials.fields, P field) ↔
      P ⟨"username", credentials.username, true⟩ ∧ P ⟨"realm", credentials.realm, true⟩ ∧
        P ⟨"nonce", credentials.nonce, true⟩ ∧ P ⟨"uri", credentials.uri, true⟩ ∧
        P ⟨"response", credentials.response, true⟩ ∧
        (∀ algorithm ∈ credentials.algorithm, P ⟨"algorithm", algorithm, false⟩) ∧
        (∀ auth ∈ credentials.auth,
          P ⟨"cnonce", auth.2, true⟩ ∧ P ⟨"nc", auth.1, false⟩ ∧ P ⟨"qop", "auth", false⟩) ∧
        ∀ data ∈ credentials.opaqueData, P ⟨"opaque", data, true⟩ := by
  obtain ⟨username, realm, nonce, uri, response, algorithm, auth, opaqueData⟩ := credentials
  unfold fields furtherFields
  cases algorithm <;> cases auth <;> cases opaqueData <;> simp [and_assoc]

variable {quoting : Quoting} {credentials : Credentials}

/-- Credentials whose fields fit are read as they were meant. -/
theorem params?_of_fits (hplain : ∀ field ∈ credentials.fields, field.IsPlain)
    (hfits : ∀ field ∈ credentials.fields, field.Fits quoting) :
    quoting.params? credentials.text = some (credentials.fields.map Field.param) := by
  unfold Quoting.params?
  rw [toList_text, Sip.word?_append]
  simp only [Option.bind_eq_bind, Option.bind_some, Field.readList?_of_fits hplain hfits]
  rfl

/-- They are read so only if their fields fit. -/
theorem fits_of_params? {params : List (String × String)}
    (hplain : ∀ field ∈ credentials.fields, field.IsPlain)
    (hread : quoting.params? credentials.text = some params)
    (hmeant : ∀ field ∈ credentials.fields,
      field.Fits quoting ∨ params.lookup field.name = some field.value) :
    ∀ field ∈ credentials.fields, field.Fits quoting := by
  unfold Quoting.params? at hread
  rw [toList_text, Sip.word?_append] at hread
  simp only [Option.bind_eq_bind, Option.bind_some, Option.bind_eq_some_iff] at hread
  obtain ⟨⟨found, rest⟩, hlist, hrest⟩ := hread
  have hfound : found = params := by
    cases rest with
    | nil => exact Option.some.inj hrest
    | cons c rest => cases hrest
  exact Field.fits_of_readList? hplain credentials.nodup_names (hfound ▸ hlist) hmeant

end Credentials

/-! ### What a server learns -/

/-- What a server has to learn from parameters to look its client up and check the response. -/
structure Tells (params : List (String × String)) (username realm nonce uri : String)
    (opaqueData : Option String) : Prop where
  username : params.lookup "username" = some username
  realm : params.lookup "realm" = some realm
  nonce : params.lookup "nonce" = some nonce
  uri : params.lookup "uri" = some uri
  opaqueData : params.lookup "opaque" = opaqueData

/-- The response that a server expects, which knows the password and the method of the request, by
RFC 2617: with a nonce count and client nonce if a quality of protection was read. -/
def expected? (password method : String) (params : List (String × String)) : Option String := do
  let username ← params.lookup "username"
  let realm ← params.lookup "realm"
  let nonce ← params.lookup "nonce"
  let uri ← params.lookup "uri"
  let secret := Md5.hex (username ++ ":" ++ realm ++ ":" ++ password)
  let asked := Md5.hex (method ++ ":" ++ uri)
  match params.lookup "qop" with
  | none => return Md5.hex (secret ++ ":" ++ nonce ++ ":" ++ asked)
  | some qop =>
    let count ← params.lookup "nc"
    let clientNonce ← params.lookup "cnonce"
    return Md5.hex (secret ++ ":" ++ nonce ++ ":" ++ count ++ ":" ++ clientNonce ++ ":" ++ qop ++
      ":" ++ asked)

namespace Credentials

/-- The parameters of credentials tell what was written. -/
theorem tells_fields (credentials : Credentials) :
    Tells (credentials.fields.map Field.param) credentials.username credentials.realm
      credentials.nonce credentials.uri credentials.opaqueData := by
  obtain ⟨husername, hrealm, hnonce, huri, -, -, -, hopaque⟩ :=
    (credentials.forall_fields _).mp fun _ => Field.lookup_param credentials.nodup_names
  refine ⟨husername, hrealm, hnonce, huri, ?_⟩
  cases hdata : credentials.opaqueData with
  | some data => exact hopaque data hdata
  | none => exact Field.lookup_absent ((credentials.forall_fields _).mpr (by simp [hdata]))

/-- A server computes the response of what was written as the client does. -/
theorem expected?_fields (credentials : Credentials) (password method : String) :
    expected? password method (credentials.fields.map Field.param) =
      some (Digest.response credentials.username password credentials.realm credentials.nonce
        method credentials.uri credentials.auth) := by
  obtain ⟨husername, hrealm, hnonce, huri, -, -, hauths, -⟩ :=
    (credentials.forall_fields _).mp fun _ => Field.lookup_param credentials.nodup_names
  unfold expected? Digest.response
  rw [husername, hrealm, hnonce, huri]
  simp only [Option.bind_eq_bind, Option.bind_some]
  cases hauth : credentials.auth with
  | none =>
    have hqop : (credentials.fields.map Field.param).lookup "qop" = none :=
      Field.lookup_absent ((credentials.forall_fields _).mpr (by simp [hauth]))
    rw [hqop]
    rfl
  | some auth =>
    obtain ⟨hclientNonce, hcount, hqop⟩ := hauths auth hauth
    have hcolons : ":auth:" = ":" ++ "auth" ++ ":" := by decide +kernel
    rw [hqop, hcount, hclientNonce, hcolons]
    simp only [Option.bind_some, String.append_assoc]
    rfl

end Credentials

/-! ### Credentials that answer a challenge -/

/-- A digest is written in hexadecimal digits. -/
theorem Md5.isLowerHex_hex (text : String) :
    ∀ c ∈ (Md5.hex text).toList, Sip.isLowerHex c = true := by
  intro c hc
  rw [Md5.hex, String.toList_ofList, List.mem_flatMap] at hc
  obtain ⟨byte, -, hc⟩ := hc
  exact Text.isLowerHex_of_mem_hexPadded hc

namespace Credentials

section Answer

variable {agent : Agent} {held : Held} {drawn : Nat} {method : Sip.Method} {uri : String}
  {credentials : Credentials} {quoting : Quoting}
  (hmade : credentials = of agent.username agent.password "" (some held)
    (Agent.clientNonceText drawn) method uri)

include hmade

/-- The count and the client nonce of an answer are written in hexadecimal digits. -/
theorem isLowerHex_auth {auth : String × String} (hauth : auth ∈ credentials.auth) :
    Sip.IsToken auth.1.toList ∧ ∀ c ∈ auth.2.toList, Sip.isLowerHex c = true := by
  obtain rfl : auth = (Agent.countText (held.count + 1), Agent.clientNonceText drawn) := by
    subst hmade
    unfold of at hauth
    cases hoffers : held.challenge.offersAuth <;> simp_all
  simp only [Sip.IsToken, Agent.countText, Agent.clientNonceText, String.toList_ofList]
  refine ⟨⟨?_, List.all_eq_true.mpr fun c hc => ?_⟩,
    fun c hc => Text.isLowerHex_of_mem_hexPadded hc⟩
  · exact List.ne_nil_of_length_pos (by simp)
  · exact Sip.isTokenChar_of_isLowerHex (Text.isLowerHex_of_mem_hexPadded hc)

/-- So is its response. -/
theorem isLowerHex_response : ∀ c ∈ credentials.response.toList, Sip.isLowerHex c = true := by
  subst hmade
  show ∀ c ∈ (Digest.response agent.username agent.password _ _ method.text uri _).toList, _
  unfold Digest.response
  dsimp only
  split <;> exact Md5.isLowerHex_hex _

/-- Names, and what stands without quotes, are tokens. -/
theorem isPlain_of_answer : ∀ field ∈ credentials.fields, field.IsPlain := by
  have htoken : ∀ word ∈ ["username", "realm", "nonce", "uri", "response", "algorithm", "cnonce",
      "nc", "qop", "opaque", "MD5", "auth"], Sip.IsToken word.toList := by decide +kernel
  have halgorithm : credentials.algorithm = some "MD5" := hmade ▸ rfl
  rw [forall_fields]
  refine ⟨Field.isPlain_quoted (htoken _ (by simp)), Field.isPlain_quoted (htoken _ (by simp)),
    Field.isPlain_quoted (htoken _ (by simp)), Field.isPlain_quoted (htoken _ (by simp)),
    Field.isPlain_quoted (htoken _ (by simp)), fun algorithm hsome => ?_, fun auth hauth => ?_,
    fun data _ => Field.isPlain_quoted (htoken _ (by simp))⟩
  · obtain rfl : "MD5" = algorithm := Option.some.inj (halgorithm.symm.trans hsome)
    exact Field.isPlain_bare (htoken _ (by simp)) (htoken _ (by simp))
  · have hcount := (isLowerHex_auth hmade hauth).1
    exact ⟨Field.isPlain_quoted (htoken _ (by simp)),
      Field.isPlain_bare (htoken _ (by simp)) hcount,
      Field.isPlain_bare (htoken _ (by simp)) (htoken _ (by simp))⟩

/-- The parameters fit exactly if the texts do that the client was given. -/
theorem fits_iff : (∀ field ∈ credentials.fields, field.Fits quoting) ↔
    ∀ text ∈ [agent.username, held.challenge.realm, held.challenge.nonce, uri] ++
      held.challenge.opaqueData.toList, quoting.Fits text.toList := by
  have hresponse : quoting.Fits credentials.response.toList :=
    quoting.fits_of_isLowerHex (isLowerHex_response hmade)
  have hdrawn : (∀ auth ∈ credentials.auth, quoting.Fits auth.2.toList) ↔ True :=
    iff_true_intro fun auth hauth => quoting.fits_of_isLowerHex (isLowerHex_auth hmade hauth).2
  rw [forall_fields]
  simp only [Field.fits_quoted, Field.fits_bare, hresponse, hdrawn, and_true, true_and,
    implies_true, List.cons_append, List.nil_append, List.forall_mem_cons, Option.mem_toList]
  subst hmade
  exact Iff.rfl

/-- A server learns all that it has to learn exactly if those texts fit. -/
theorem tells_iff :
    (∃ params, quoting.params? credentials.text = some params ∧
        Tells params agent.username held.challenge.realm held.challenge.nonce uri
          held.challenge.opaqueData) ↔
      ∀ text ∈ [agent.username, held.challenge.realm, held.challenge.nonce, uri] ++
        held.challenge.opaqueData.toList, quoting.Fits text.toList := by
  rw [← fits_iff hmade]
  have hplain := isPlain_of_answer hmade
  have hsame : ∀ params, Tells params agent.username held.challenge.realm held.challenge.nonce uri
      held.challenge.opaqueData ↔ Tells params credentials.username credentials.realm
        credentials.nonce credentials.uri credentials.opaqueData :=
    fun params => hmade ▸ Iff.rfl
  simp only [hsame]
  refine ⟨fun ⟨params, hread, htells⟩ => fits_of_params? hplain hread ?_,
    fun hfits => ⟨_, params?_of_fits hplain hfits, credentials.tells_fields⟩⟩
  exact (credentials.forall_fields _).mpr
    ⟨.inr htells.username, .inr htells.realm, .inr htells.nonce, .inr htells.uri,
      .inl fun _ => quoting.fits_of_isLowerHex (isLowerHex_response hmade),
      fun _ _ => .inl Field.fits_bare,
      fun auth hauth =>
        ⟨.inl fun _ => quoting.fits_of_isLowerHex (isLowerHex_auth hmade hauth).2,
          .inl Field.fits_bare, .inl Field.fits_bare⟩,
      fun data hdata => .inr (htells.opaqueData.trans hdata)⟩

/-- If they fit, the response that is read is the one that the server expects. -/
theorem expected?_of_answer :
    let params := credentials.fields.map Field.param
    params.lookup "response" = some credentials.response ∧
      expected? agent.password method.text params = some credentials.response := by
  obtain ⟨-, -, -, -, hresponse, -⟩ :=
    (credentials.forall_fields _).mp fun _ => Field.lookup_param credentials.nodup_names
  refine ⟨hresponse, ?_⟩
  rw [expected?_fields]
  subst hmade
  rfl

end Answer

end Credentials

/-- From the answer to a challenge, a server reads back the texts that were used exactly if they fit
between quotes. Whenever it does, the response that it expects is the one that it reads. -/
theorem Agent.answer_verified_iff {agent : Agent} {held : Held} (hheld : agent.held = some held)
    (method : Sip.Method) (uri : String) (quoting : Quoting) :
    let challenge := held.challenge
    ∃ value, (agent.authorization method uri).1 = some value ∧
      ((∃ params, quoting.params? value = some params ∧
          Tells params agent.username challenge.realm challenge.nonce uri challenge.opaqueData) ↔
        ∀ text ∈ [agent.username, challenge.realm, challenge.nonce, uri] ++
          challenge.opaqueData.toList, quoting.Fits text.toList) ∧
      ∀ params, quoting.params? value = some params →
        Tells params agent.username challenge.realm challenge.nonce uri challenge.opaqueData →
        ∃ proof, params.lookup "response" = some proof ∧
          expected? agent.password method.text params = some proof := by
  intro challenge
  obtain ⟨credentials, hmade⟩ : ∃ credentials, credentials = Credentials.of agent.username
      agent.password "" (some held) (clientNonceText (agent.drawn + 1)) method uri := ⟨_, rfl⟩
  refine ⟨credentials.text, ?_, Credentials.tells_iff hmade, fun params hread htells => ?_⟩
  · rw [authorization_answer agent "", hheld, hmade]
    rfl
  · have hfits := (Credentials.fits_iff hmade).mpr
      ((Credentials.tells_iff hmade).mp ⟨params, hread, htells⟩)
    rw [Credentials.params?_of_fits (Credentials.isPlain_of_answer hmade) hfits] at hread
    obtain rfl := Option.some.inj hread
    exact ⟨credentials.response, Credentials.expected?_of_answer hmade⟩

/-- An agent was challenged for the user of a name. -/
def sampleChallenged (username : String) : Agent where
  username
  password := "p"
  held := some ⟨{ realm := "r", nonce := "n", opaqueData := some "o", offersAuth := true }, 0⟩

/-- In the example, a server verifies what a user without a quote in the name sends. -/
theorem Agent.plain_answer_verified_in_sample :
    ∃ value params proof,
      ((sampleChallenged "u").authorization .register "sip:a").1 = some value ∧
        Quoting.resolved.params? value = some params ∧ params.lookup "username" = some "u" ∧
        params.lookup "opaque" = some "o" ∧ params.lookup "response" = some proof ∧
        expected? "p" "REGISTER" params = some proof := by
  obtain ⟨value, hanswer, hread, hverified⟩ :=
    answer_verified_iff (rfl : (sampleChallenged "u").held = some _) .register "sip:a" .resolved
  obtain ⟨params, hparams, htells⟩ := hread.mpr (by decide)
  obtain ⟨proof, hproof, hexpected⟩ := hverified params hparams htells
  exact ⟨value, params, proof, hanswer, hparams, htells.username, htells.opaqueData, hproof,
    hexpected⟩

/-- But if the name has a quote, it can make nothing of it at all. -/
theorem Agent.quoted_name_unreadable_in_sample :
    ∃ value, ((sampleChallenged "a\"b").authorization .register "sip:a").1 = some value ∧
      ∀ quoting : Quoting, quoting.params? value = none := by
  refine ⟨_, rfl, ?_⟩
  rintro (_ | _) <;> decide +kernel

end ImsClient.Digest
