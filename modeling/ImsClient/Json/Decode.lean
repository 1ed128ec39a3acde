import ImsClient.Json.Parser

/-!
# Taking documents apart

A record is written as an object with its fields by name, where names that are
unknown do not matter and known ones stand once at most, or as a list of its
fields in order. A choice without content is written as its name.
-/

namespace ImsClient.Json

def string? : Json → Option String
  | string text => text
  | _ => none

def bool? : Json → Option Bool
  | bool value => some value
  | _ => none

/-- An integer within bounds. -/
def integer? (least greatest : Int) : Json → Option Int
  | integer value => if least ≤ value ∧ value ≤ greatest then some value else none
  | _ => none

/-- A whole number of so many bits. -/
def natural? (bits : Nat) (doc : Json) : Option Nat :=
  (integer? 0 ((1 <<< bits : Nat) - 1) doc).map Int.toNat

/-- An integer of so many bits, one of them for the sign. -/
def signed? (bits : Nat) (doc : Json) : Option Int :=
  let half : Nat := 1 <<< (bits - 1)
  integer? (-half) (half - 1) doc

/-- A value that may be missing, which null stands for. -/
def option? {α : Type} (read? : Json → Option α) : Json → Option (Option α)
  | null => some none
  | doc => (read? doc).map some

def list? {α : Type} (read? : Json → Option α) : Json → Option (List α)
  | array items => items.mapM read?
  | _ => none

/-- The fields of a record under their names. -/
def fields? (known : List String) : Json → Option (List (String × Json))
  | object members => do
    let named ← members.mapM fun (name, value) => name.map fun text => (text, value)
    let found := named.filter fun (name, _) => known.contains name
    if (found.map Prod.fst).Nodup then return found else none
  | array items => if items.length ≤ known.length then some (known.zip items) else none
  | _ => none

/-- A field that must be there. -/
def required? {α : Type} (fields : List (String × Json)) (name : String)
    (read? : Json → Option α) : Option α :=
  (fields.lookup name).bind read?

/-- A field that has a default. -/
def defaulted? {α : Type} (fields : List (String × Json)) (name : String)
    (read? : Json → Option α) (default : α) : Option α :=
  match fields.lookup name with
  | some value => read? value
  | none => some default

/-- The name of a choice without content: a string, or the one member of an object, with null. -/
def choiceName? : Json → Option String
  | string text => text
  | object [(name, null)] => name
  | _ => none

/-- A choice without content, by its name. -/
def choice? {α : Type} (label : α → String) (all : List α) (doc : Json) : Option α := do
  let name ← choiceName? doc
  all.find? fun value => label value = name

end ImsClient.Json
