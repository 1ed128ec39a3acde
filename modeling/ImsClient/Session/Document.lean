import ImsClient.Json.Decode
import ImsClient.Registration.State
import ImsClient.Session.State
import ImsClient.Settings

/-!
# States and keys as documents

A state or category is written as its name. A key is written as an object with one
member, whose name is the category and whose value is the id.
-/

namespace ImsClient

namespace Session

def Category.toJson (category : Category) : Json := .ofString category.label

def Category.ofJson? : Json → Option Category := Json.choice? Category.label Category.all

def State.toJson (state : State) : Json := .ofString state.text

def State.ofJson? : Json → Option State := Json.choice? State.text State.all

def Kind.toJson (kind : Kind) : Json :=
  .ofFields [(kind.category.diagnostic, .ofString kind.id)]

def Kind.ofJson? : Json → Option Kind
  | .object [(some name, value)] => do
    let category ← Category.all.find? fun category => category.diagnostic = name
    return ⟨category, ← value.string?⟩
  | _ => none

end Session

def Registration.State.toJson (state : Registration.State) : Json := .ofString state.text

def Registration.State.ofJson? : Json → Option Registration.State :=
  Json.choice? Registration.State.text Registration.State.all

namespace Settings

def schemeToJson (scheme : Procedure.Scheme) : Json := .ofString scheme.label

def schemeOfJson? : Json → Option Procedure.Scheme :=
  Json.choice? Procedure.Scheme.label Procedure.Scheme.all

end Settings

end ImsClient
