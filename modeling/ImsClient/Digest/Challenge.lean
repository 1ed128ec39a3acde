import ImsClient.Error
import ImsClient.Sip.Challenge
import ImsClient.Sip.Message

/-!
# Digest challenges that can be answered

What a client needs of a challenge to answer it. Only the scheme Digest with the
algorithm MD5 can be answered, and only if a realm and a nonce are given; of a
parameter that is repeated, the last one counts.
-/

namespace ImsClient.Digest

structure Challenge where
  realm : String
  nonce : String
  opaqueData : Option String := none
  /-- Whether the quality of protection "auth" is offered. -/
  offersAuth : Bool := false
  stale : Bool := false
deriving DecidableEq, Repr, Inhabited

namespace Challenge

/-- What has been read of a challenge so far. -/
structure Draft where
  realm : Option String := none
  nonce : Option String := none
  opaqueData : Option String := none
  offersAuth : Bool := false
  stale : Bool := false
deriving DecidableEq, Repr, Inhabited

/-- Takes in one parameter. -/
def Draft.take (draft : Draft) : Sip.DigestParam → Except Error Draft
  | .realm value => .ok { draft with realm := some value }
  | .nonce value => .ok { draft with nonce := some value }
  | .opaqueData value => .ok { draft with opaqueData := some value }
  | .stale value => .ok { draft with stale := value }
  | .qop options => .ok { draft with offersAuth := options.any (Text.alike "auth") }
  | .algorithm .md5 => .ok draft
  | .algorithm other =>
    .error (.protocol ("unsupported digest algorithm " ++ other.diagnostic))
  | .other _ _ => .ok draft

/-- The challenge, if a realm and a nonce were given. -/
def Draft.finish (draft : Draft) : Except Error Challenge :=
  match draft.realm, draft.nonce with
  | none, _ => .error (.protocol "challenge without realm")
  | some _, none => .error (.protocol "challenge without nonce")
  | some realm, some nonce =>
    .ok ⟨realm, nonce, draft.opaqueData, draft.offersAuth, draft.stale⟩

/-- What a client needs of a challenge. -/
def ofSip : Sip.Challenge → Except Error Challenge
  | .other scheme params =>
    .error (.protocol ("unsupported auth scheme in " ++ Sip.Challenge.text scheme params))
  | .digest params => do
    let draft ← params.foldlM Draft.take {}
    draft.finish

/-- The challenges in the value of a header. -/
def listOfText (value : String) : Except Error (List Sip.Challenge) :=
  match Sip.Challenge.listOfText? value with
  | some challenges => .ok challenges
  | none => .error (.protocol (Sip.syntaxError "challenge"))

def isDigest : Sip.Challenge → Bool
  | .digest _ => true
  | .other _ _ => false

/-- The first Digest challenge in the first header of a name. -/
def ofResponse (response : Sip.Response) (name : String) : Except Error Challenge := do
  match response.headerText? name with
  | none => .error (.protocol (toString response.status ++ " without " ++ name))
  | some value =>
    match (← listOfText value).find? isDigest with
    | none => .error (.protocol ("no Digest challenge in " ++ name))
    | some challenge => ofSip challenge

end Challenge

end ImsClient.Digest
