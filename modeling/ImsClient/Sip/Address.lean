import ImsClient.Sip.Uri
import ImsClient.Text.Alphanumeric
import ImsClient.Text.DeltaSeconds

/-!
# Addresses

A URI with the name shown for it and with parameters of its own, as in the From,
To, Contact and Route headers. Looking up a parameter sees those of the address
first and those of its URI after them.
-/

namespace ImsClient.Sip

structure Address where
  display : Option String := none
  uri : Uri
  params : List Param := []
deriving DecidableEq, Repr, Inhabited

namespace Address

/-- A character of a display name that needs no quotes. -/
def isPlainDisplayChar (c : Char) : Bool :=
  Text.isAlphanumeric c || "-.!%*_+`'~".toList.contains c

/-- The display name as it is written, with the blank after it. Without the white space around
it, it is left out if it is empty and stands alone if it is plain; any other one is quoted whole. -/
def displayText : Option String → String
  | none => ""
  | some name =>
    let bare := Text.trim name
    if bare.isEmpty then ""
    else if bare.toList.all isPlainDisplayChar then bare ++ " "
    else "\"" ++ String.ofList (Text.escapeQuotes name.toList) ++ "\" "

def text (names : Naming) (address : Address) : String :=
  displayText address.display ++ "<" ++ address.uri.text names ++ ">" ++
    Param.listText names address.params

/-- The value of a parameter of the address or else of its URI, without quotes; a parameter
without a value has the empty one. -/
def param? (names : Naming) (address : Address) (name : String) : Option String :=
  (Param.find? (address.params ++ address.uri.params) name).map fun param =>
    ((param.value names).map Text.unquote).getD ""

/-- The lifetime that a registrar granted to an address. -/
def expires? (names : Naming) (address : Address) : Option Nat :=
  (address.param? names "expires").bind Text.deltaSeconds?

/-- The tag of a party. -/
def tag? (address : Address) : Option Identifier :=
  address.params.findSome? fun
    | .tag value => some value
    | _ => none

/-- The identifiers in an address, in the order of its text. -/
def identifiers (address : Address) : List Identifier :=
  address.uri.identifiers ++ address.params.flatMap Param.identifiers

end Address

end ImsClient.Sip
