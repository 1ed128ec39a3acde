/-!
# Random identifiers

Call-IDs, tags, branches and session ids are drawn at random, and all that
matters about one that was drawn is that no other draw gives it. So a draw is
its place in the supply it was taken from, and its text comes from a naming of
the draws; identifiers of other parties are given as text.
-/

namespace ImsClient

/-- What an identifier that is drawn is for. -/
inductive Identifier.Use where
  /-- The tag of a party of a dialog. -/
  | tag
  /-- The branch of a transaction. -/
  | branch
  /-- The Call-ID of a dialog, scoped to a host. -/
  | call (host : String)
  /-- A session id. -/
  | session
deriving DecidableEq, Repr

/-- The draw with a number, taken from one of several supplies. -/
structure Draw where
  supply : Nat
  number : Nat
deriving DecidableEq, Repr, Inhabited

/-- An identifier that another party gave, or that was drawn here. -/
inductive Identifier where
  | given (text : String)
  | drawn (draw : Draw) (use : Identifier.Use)
deriving DecidableEq, Repr

instance : Inhabited Identifier := ⟨.given ""⟩

/-- Gives each draw its text. -/
abbrev Naming := Draw → String

/-- A naming that tells any two draws apart. -/
def Naming.plain : Naming := fun draw => toString draw.supply ++ "-" ++ toString draw.number

namespace Identifier

/-- What every branch begins with, so that it is known to be unique. -/
def branchCookie : String := "z9hG4bK"

def text (names : Naming) : Identifier → String
  | .given text => text
  | .drawn draw .tag => names draw
  | .drawn draw .branch => branchCookie ++ names draw
  | .drawn draw (.call host) => names draw ++ "@" ++ host
  | .drawn draw .session => names draw

end Identifier

/-- A supply of draws, each of them taken once. -/
structure Supply where
  /-- Which supply this is. -/
  label : Nat := 0
  /-- How many draws were taken. -/
  taken : Nat := 0
deriving DecidableEq, Repr, Inhabited

namespace Supply

/-- Takes the next identifier out of the supply. -/
def draw (use : Identifier.Use) (supply : Supply) : Identifier × Supply :=
  (.drawn ⟨supply.label, supply.taken⟩ use, { supply with taken := supply.taken + 1 })

end Supply

end ImsClient
