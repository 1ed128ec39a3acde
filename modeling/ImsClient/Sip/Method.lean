/-!
# Methods
-/

namespace ImsClient.Sip

/-- What a request asks for. Names are told apart by the case of their letters. -/
inductive Method where
  | register
  | invite
  | ack
  | other (name : String)
deriving DecidableEq, Repr, Inhabited

namespace Method

def text : Method → String
  | register => "REGISTER"
  | invite => "INVITE"
  | ack => "ACK"
  | other name => name

def ofText (name : String) : Method :=
  if name = "REGISTER" then register
  else if name = "INVITE" then invite
  else if name = "ACK" then ack
  else other name

/-- A method is read back from its name. -/
theorem text_ofText (name : String) : (ofText name).text = name := by
  unfold ofText
  split
  · simp_all [text]
  · split
    · simp_all [text]
    · split <;> simp_all [text]

end Method

end ImsClient.Sip
