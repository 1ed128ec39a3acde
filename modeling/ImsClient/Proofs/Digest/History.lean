import ImsClient.Proofs.Digest.Credentials
import ImsClient.Proofs.Run
import ImsClient.Proofs.Text.Numerals
import Mathlib.Data.List.DropRight

/-!
# What an agent answers after its past

An agent takes in challenges and next nonces, forgets what it holds, and answers. What
it holds after any past is told here from the past alone: the latest challenge since it
last forgot, the latest nonce, and how many answers used it. An act that brings nothing
could as well have been left out.

The uses of a nonce are counted without a bound here, and are written in eight
hexadecimal digits. So what is said of a count is said of nonces that are used fewer than
2³² times, which is what a counter of 32 bits can tell apart.
-/

namespace ImsClient.Digest

/-- One use of an agent. -/
inductive Act where
  /-- A response was given to it, with the name of the header that challenges. -/
  | challenged (response : Sip.Response) (name : String)
  /-- The value of an Authentication-Info was given to it. -/
  | informed (value : String)
  | reset
  /-- It was asked for credentials. -/
  | asked (method : Sip.Method) (uri : String)

namespace Act

/-- The challenge that was read, if it can be answered. -/
def challenge? : Act → Option Challenge
  | challenged response name => (Challenge.ofResponse response name).toOption
  | _ => none

/-- The next nonce that was read. -/
def nextNonce? : Act → Option String
  | informed value => Sip.AuthenticationInfo.nextNonce? value
  | _ => none

/-- The nonce that was supplied: that of a challenge, or the next one. -/
def nonce? (act : Act) : Option String := (act.challenge?.map (·.nonce)).or act.nextNonce?

def isReset : Act → Bool
  | reset => true
  | _ => false

def isAsked : Act → Bool
  | asked .. => true
  | _ => false

/-- What is held after an act: a challenge takes the place of another one, a next nonce that of the
nonce, and an answer uses it. -/
def renew (act : Act) (held : Option Held) : Option Held :=
  if act.isReset then none
  else
    match act.challenge?, act.nextNonce? with
    | some challenge, _ => some ⟨challenge, 0⟩
    | none, some nonce => held.map fun held => ⟨{ held.challenge with nonce }, 0⟩
    | none, none => if act.isAsked then held.map Held.used else held

/-- Whether something was read that brings neither a challenge nor a nonce. -/
def isIdle : Act → Bool
  | challenged response name => (challenged response name).challenge?.isNone
  | informed value => (informed value).nextNonce?.isNone
  | reset => false
  | asked .. => false

end Act

/-- All uses of an agent, in their order. -/
abbrev Past := List Act

namespace Past

/-- What came after the agent last forgot its challenge. -/
def sinceReset (past : Past) : Past := past.rtakeWhile fun act => !act.isReset

/-- The latest challenge since then. -/
def challenge? (past : Past) : Option Challenge :=
  (past.sinceReset.filterMap Act.challenge?).getLast?

/-- The latest nonce that was supplied since then. -/
def nonce? (past : Past) : Option String := (past.sinceReset.filterMap Act.nonce?).getLast?

/-- How often the agent was asked since the latest nonce. -/
def uses (past : Past) : Nat := (past.rtakeWhile fun act => act.nonce?.isNone).countP Act.isAsked

/-- The latest challenge, with the latest nonce and how often it was used. -/
def held? (past : Past) : Option Held :=
  past.challenge?.bind fun challenge =>
    past.nonce?.map fun nonce => ⟨{ challenge with nonce }, past.uses⟩

variable (past : Past) (act : Act)

theorem sinceReset_concat :
    sinceReset (past ++ [act]) = if act.isReset then [] else past.sinceReset ++ [act] := by
  unfold sinceReset
  rw [List.rtakeWhile_concat]
  cases act.isReset <;> rfl

/-- The latest of what is observed of some acts is that of one more act, if there is any. -/
theorem getLast?_filterMap_concat {α : Type} (observe : Act → Option α) :
    ((past ++ [act]).filterMap observe).getLast? =
      (observe act).or (past.filterMap observe).getLast? := by
  rw [List.filterMap_append]
  cases hobserved : observe act with
  | none => simp [hobserved]
  | some seen => simp [hobserved]

theorem challenge?_concat :
    challenge? (past ++ [act]) =
      if act.isReset then none else act.challenge?.or past.challenge? := by
  unfold challenge?
  rw [sinceReset_concat]
  split
  · rfl
  · exact getLast?_filterMap_concat past.sinceReset act Act.challenge?

theorem nonce?_concat :
    nonce? (past ++ [act]) = if act.isReset then none else act.nonce?.or past.nonce? := by
  unfold nonce?
  rw [sinceReset_concat]
  split
  · rfl
  · exact getLast?_filterMap_concat past.sinceReset act Act.nonce?

/-- One more answer uses the nonce once more; one more nonce was not used yet. -/
theorem uses_concat :
    uses (past ++ [act]) =
      if act.nonce?.isNone then past.uses + (if act.isAsked then 1 else 0) else 0 := by
  unfold uses
  rw [List.rtakeWhile_concat]
  split
  · rw [List.countP_append, List.countP_singleton]
  · rfl

/-- A challenge supplies a nonce, so there is a latest one after it. -/
theorem nonce?_isSome {past : Past} {challenge : Challenge}
    (hchallenge : past.challenge? = some challenge) : ∃ nonce, past.nonce? = some nonce := by
  obtain ⟨act, hact, hread⟩ :=
    List.mem_filterMap.mp (List.mem_of_getLast? hchallenge)
  have hsupplied : challenge.nonce ∈ past.sinceReset.filterMap Act.nonce? :=
    List.mem_filterMap.mpr ⟨act, hact, by simp [Act.nonce?, hread]⟩
  cases hnonce : past.nonce? with
  | some nonce => exact ⟨nonce, rfl⟩
  | none =>
    have hempty := List.getLast?_eq_none_iff.mp hnonce
    rw [hempty] at hsupplied
    cases hsupplied

/-- No challenge is the latest one if none was read since the agent last forgot. -/
theorem challenge?_eq_none_iff :
    past.challenge? = none ↔ ∀ act ∈ past.sinceReset, act.challenge? = none := by
  rw [challenge?, List.getLast?_eq_none_iff, List.filterMap_eq_nil_iff]

/-- Nothing is held before a challenge. -/
theorem held?_eq_none_iff : past.held? = none ↔ past.challenge? = none := by
  cases hchallenge : past.challenge? with
  | none => simp [held?, hchallenge]
  | some challenge =>
    obtain ⟨nonce, hnonce⟩ := nonce?_isSome hchallenge
    simp [held?, hchallenge, hnonce]

/-- One more act renews what is held. -/
theorem held?_concat : held? (past ++ [act]) = act.renew past.held? := by
  have hchallenged : past.challenge? = none ∨ ∃ challenge nonce,
      past.challenge? = some challenge ∧ past.nonce? = some nonce := by
    cases hchallenge : past.challenge? with
    | none => exact .inl rfl
    | some challenge =>
      obtain ⟨nonce, hnonce⟩ := nonce?_isSome hchallenge
      exact .inr ⟨challenge, nonce, rfl, hnonce⟩
  unfold held? Act.renew
  rw [challenge?_concat, nonce?_concat, uses_concat, Act.nonce?]
  cases act.isReset with
  | true => rfl
  | false =>
    cases act.challenge? with
    | some challenge => rfl
    | none =>
      -- The challenge stays, and the nonce does unless there is a next one.
      obtain hnone | ⟨challenge, nonce, hchallenge, hnonce⟩ := hchallenged
      · rw [hnone]
        cases act.nextNonce? <;> cases act.isAsked <;> rfl
      · rw [hchallenge, hnonce]
        cases act.nextNonce? <;> cases act.isAsked <;> rfl

end Past

namespace Agent

/-- The agent after one more act. A challenge that cannot be answered is refused. -/
def step (agent : Agent) : Act → Agent
  | .challenged response name =>
    match agent.readChallenge response name with
    | .ok next => next
    | .error _ => agent
  | .informed value => agent.readInfo value
  | .reset => agent.reset
  | .asked method uri => (agent.authorization method uri).2

/-- The agent after its past. -/
def after (agent : Agent) (past : Past) : Agent := Run.after step agent past

/-- One more act takes the agent one step further. -/
theorem after_concat (agent : Agent) (past : Past) (act : Act) :
    agent.after (past ++ [act]) = (agent.after past).step act := Run.after_concat agent past act

/-- An act renews what the agent holds, and may draw a client nonce. -/
theorem step_eq (agent : Agent) (act : Act) :
    ∃ drawn, agent.step act = { agent with held := act.renew agent.held, drawn } := by
  cases act with
  | challenged response name =>
    refine ⟨agent.drawn, ?_⟩
    simp only [step, readChallenge, Act.renew, Act.challenge?]
    cases Challenge.ofResponse response name <;> rfl
  | informed value =>
    obtain ⟨username, password, held, drawn⟩ := agent
    refine ⟨drawn, ?_⟩
    unfold step readInfo Act.renew Act.nextNonce?
    dsimp only
    -- Neither side depends on how a next nonce is read.
    generalize Sip.AuthenticationInfo.nextNonce? value = next
    cases next <;> cases held <;> rfl
  | reset => exact ⟨agent.drawn, rfl⟩
  | asked method uri =>
    obtain ⟨_, drawn, _, hagent⟩ := agent.authorization_eq "" method uri
    exact ⟨drawn, hagent⟩

/-- After any past, a new agent holds what the past tells. -/
theorem after_eq (agent : Agent) (hnew : agent.held = none) (past : Past) :
    ∃ drawn, agent.after past = { agent with held := past.held?, drawn } := by
  induction past using List.reverseRecOn with
  | nil =>
    refine ⟨agent.drawn, ?_⟩
    show agent = { agent with held := none }
    rw [← hnew]
  | append_singleton past act ih =>
    obtain ⟨before, ih⟩ := ih
    obtain ⟨drawn, hstep⟩ := (agent.after past).step_eq act
    refine ⟨drawn, ?_⟩
    rw [Past.held?_concat, after_concat, hstep, ih]

/-- An act that brings nothing changes nothing. -/
theorem step_of_isIdle (agent : Agent) {act : Act} (hidle : act.isIdle = true) :
    agent.step act = agent := by
  cases act with
  | challenged response name =>
    simp only [Act.isIdle, Act.challenge?] at hidle
    simp only [step, readChallenge]
    cases hread : Challenge.ofResponse response name with
    | error e => rfl
    | ok challenge =>
      rw [hread] at hidle
      cases hidle
  | informed value =>
    have hnone : Sip.AuthenticationInfo.nextNonce? value = none :=
      Option.isNone_iff_eq_none.mp hidle
    show agent.readInfo value = agent
    unfold readInfo
    rw [hnone]
  | reset => cases hidle
  | asked method uri => cases hidle

/-- So the acts that bring nothing could as well have been left out. -/
theorem after_filter (agent : Agent) (past : Past) :
    agent.after past = agent.after (past.filter fun act => !act.isIdle) := by
  induction past using List.reverseRecOn with
  | nil => rfl
  | append_singleton past act ih =>
    rw [after_concat, ih, List.filter_append]
    cases hidle : act.isIdle with
    | false => simp [hidle, after_concat]
    | true =>
      rw [step_of_isIdle _ hidle]
      simp [hidle]

/-- A count below 2³² is written in eight hexadecimal digits. -/
theorem countText_spec {count : Nat} (hcount : count < 2 ^ 32) :
    (countText count).toList.length = 8 ∧
      (∀ c ∈ (countText count).toList, Sip.isLowerHex c = true) ∧
      Text.hexadecimal? (countText count).toList = some count := by
  rw [countText, String.toList_ofList]
  exact ⟨Text.length_hexPadded 8 count, fun _ => Text.isLowerHex_of_mem_hexPadded,
    Text.hexadecimal?_hexPadded (by omega)⟩

end Agent

/-- What credentials say that answer a challenge after some past of an agent. -/
structure Past.AnsweredBy (past : Past) (challenge : Challenge) (credentials : Credentials) :
    Prop where
  realm : credentials.realm = challenge.realm
  opaqueData : credentials.opaqueData = challenge.opaqueData
  /-- The nonce is the one that was supplied last. -/
  nonce : past.nonce? = some credentials.nonce
  /-- Uses are counted exactly if the challenge offers it. -/
  auth : credentials.auth.isSome = challenge.offersAuth
  /-- The count is that of all uses of the nonce, this one included. -/
  count : ∀ count clientNonce, credentials.auth = some (count, clientNonce) →
    count.toList.length = 8 ∧ (∀ c ∈ count.toList, Sip.isLowerHex c = true) ∧
      Text.hexadecimal? count.toList = some (past.uses + 1)

/-- The credentials for what a past tells answer it. -/
theorem Past.answeredBy_of {past : Past} {challenge : Challenge} {nonce : String}
    (hnonce : past.nonce? = some nonce) (hfew : past.uses + 1 < 2 ^ 32)
    (username password realm clientNonce : String) (method : Sip.Method) (uri : String) :
    past.AnsweredBy challenge (.of username password realm
      (some ⟨{ challenge with nonce }, past.uses⟩) clientNonce method uri) := by
  refine ⟨rfl, rfl, hnonce, ?_, fun count drawn hauth => ?_⟩
  · unfold Credentials.of
    cases challenge.offersAuth <;> rfl
  · have hcount : count = Agent.countText (past.uses + 1) := by
      unfold Credentials.of at hauth
      cases hoffers : challenge.offersAuth with
      | false => simp [hoffers] at hauth
      | true =>
        simp only [hoffers, if_true, Option.some.injEq, Prod.mk.injEq] at hauth
        exact hauth.1.symm
    rw [hcount]
    exact Agent.countText_spec hfew

/-- After any past, an agent answers exactly if a challenge was read since it last forgot. It
answers the latest one, with the nonce that was supplied last and how often it has used it; what
was read and brought nothing has no influence. -/
theorem Agent.authorization_of_past (username password : String) (past : Past)
    (method : Sip.Method) (uri : String) :
    let agent : Agent := { username, password }
    let answer := ((agent.after past).authorization method uri).1
    (answer = none ↔ ∀ act ∈ past.sinceReset, act.challenge? = none) ∧
      (∀ challenge, past.challenge? = some challenge → past.uses + 1 < 2 ^ 32 →
        ∃ credentials : Credentials, answer = some credentials.text ∧
          credentials.username = username ∧ credentials.uri = uri ∧
          credentials.response = Digest.response username password credentials.realm
            credentials.nonce method.text uri credentials.auth ∧
          past.AnsweredBy challenge credentials) ∧
      agent.after past = agent.after (past.filter fun act => !act.isIdle) := by
  intro agent answer
  obtain ⟨drawn, hafter⟩ := agent.after_eq rfl past
  have hanswer : answer = past.held?.map fun held =>
      (Credentials.of username password "" (some held) (clientNonceText (drawn + 1)) method
        uri).text := by
    show ((agent.after past).authorization method uri).1 = _
    rw [hafter]
    exact authorization_answer _ "" method uri
  refine ⟨?_, fun challenge hchallenge hfew => ?_, agent.after_filter past⟩
  · rw [← Past.challenge?_eq_none_iff, ← Past.held?_eq_none_iff, hanswer, Option.map_eq_none_iff]
  · obtain ⟨nonce, hnonce⟩ := Past.nonce?_isSome hchallenge
    have hheld : past.held? = some ⟨{ challenge with nonce }, past.uses⟩ := by
      simp only [Past.held?, hchallenge, hnonce, Option.bind_some, Option.map_some]
    rw [hheld, Option.map_some] at hanswer
    exact ⟨_, hanswer, rfl, rfl, rfl, Past.answeredBy_of hnonce hfew ..⟩

/-- A 401 that challenges with the quality of protection "auth". -/
def sampleChallenge : Sip.Response where
  status := 401
  headers := [.ofText "WWW-Authenticate" "Digest realm=\"r\", nonce=\"n\", qop=\"auth\""]

/-- An agent was challenged, answered, was told a next nonce and answered once more; a 401 without a
challenge came in between. -/
def samplePast : Past :=
  [.challenged sampleChallenge "WWW-Authenticate", .asked .register "sip:a",
    .informed "nextnonce=\"m\"", .asked .register "sip:a",
    .challenged { status := 401 } "WWW-Authenticate"]

/-- In the example, the next answer is the second one with the next nonce. -/
theorem Agent.next_nonce_counted_in_sample :
    ∃ credentials : Credentials,
      ((Agent.after { username := "u", password := "p" } samplePast).authorization .register
        "sip:a").1 = some credentials.text ∧
      credentials.realm = "r" ∧ credentials.nonce = "m" ∧
      ∃ count clientNonce, credentials.auth = some (count, clientNonce) ∧
        count.toList.length = 8 ∧ Text.hexadecimal? count.toList = some 2 := by
  have hchallenge : samplePast.challenge? =
      some { realm := "r", nonce := "n", offersAuth := true } := by decide +kernel
  have hnonce : samplePast.nonce? = some "m" := by decide +kernel
  have huses : samplePast.uses = 1 := by decide +kernel
  obtain ⟨-, hanswers, -⟩ := authorization_of_past "u" "p" samplePast .register "sip:a"
  obtain ⟨credentials, hanswer, -, -, -, htold⟩ := hanswers _ hchallenge (by rw [huses]; decide)
  refine ⟨credentials, hanswer, htold.realm, ?_, ?_⟩
  · exact Option.some.inj (htold.nonce.symm.trans hnonce)
  · obtain ⟨⟨count, clientNonce⟩, hauth⟩ := Option.isSome_iff_exists.mp htold.auth
    obtain ⟨hlength, -, hcount⟩ := htold.count count clientNonce hauth
    exact ⟨count, clientNonce, hauth, hlength, by rw [hcount, huses]⟩

end ImsClient.Digest
