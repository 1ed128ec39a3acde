import ImsClient.Identifier
import ImsClient.Net.Address
import ImsClient.Text.Quoted

/-!
# Parameters

What follows a semicolon in an address, a URI or a Via: a name with a value or
without one. Six parameters have a type of their own; every other one is generic,
whatever its name.
-/

namespace ImsClient.Sip

inductive Param where
  | flag (name : String)
  | token (name value : String)
  | quoted (name value : String)
  | expires (seconds : Nat)
  | tag (value : Identifier)
  | branch (value : Identifier)
  | lr
  | received (ip : IpAddress)
  | rport (port : Option Nat)
deriving DecidableEq, Repr, Inhabited

namespace Param

def name : Param → String
  | flag name | token name _ | quoted name _ => name
  | expires _ => "expires"
  | tag _ => "tag"
  | branch _ => "branch"
  | lr => "lr"
  | received _ => "received"
  | rport _ => "rport"

/-- The value without quotes and escapes, if there is a value. -/
def value (names : Naming) : Param → Option String
  | flag _ | lr => none
  | token _ value | quoted _ value => some value
  | expires seconds => some (toString seconds)
  | tag value | branch value => some (value.text names)
  | received ip => some ip.text
  | rport port => port.map toString

/-- The parameter as it is written, semicolon included. -/
def text (names : Naming) (param : Param) : String :=
  match param with
  | quoted name value => ";" ++ name ++ "=" ++ Text.quote value
  | _ =>
    match param.value names with
    | some value => ";" ++ param.name ++ "=" ++ value
    | none => ";" ++ param.name

/-- The identifiers in a parameter. -/
def identifiers : Param → List Identifier
  | tag value | branch value => [value]
  | _ => []

/-- Parameters one after another. -/
def listText (names : Naming) (params : List Param) : String :=
  String.join (params.map (text names))

/-- The first parameter of a name, whatever the case of its letters. -/
def find? (params : List Param) (name : String) : Option Param :=
  params.find? fun param => Text.alike param.name name

end Param

end ImsClient.Sip
