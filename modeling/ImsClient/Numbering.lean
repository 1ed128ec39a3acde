import ImsClient.Identifier

/-!
# Numbering draws

Names draws by what they are for and in the order in which they are first met, so
that an account of what happened is the same whatever was drawn.
-/

namespace ImsClient

structure Numbering where
  names : List (Draw × String) := []
  tags : Nat := 0
  branches : Nat := 0
  calls : Nat := 0
  sessions : Nat := 0
deriving Repr, Inhabited

namespace Numbering

def naming (numbering : Numbering) : Naming :=
  fun draw => (numbering.names.lookup draw).getD (Naming.plain draw)

/-- Gives a draw the next name for its use. -/
def add (numbering : Numbering) (draw : Draw) : Identifier.Use → Numbering
  | .tag =>
    let n := numbering.tags + 1
    { numbering with tags := n, names := (draw, "tag" ++ toString n) :: numbering.names }
  | .branch =>
    let n := numbering.branches + 1
    { numbering with branches := n, names := (draw, "branch" ++ toString n) :: numbering.names }
  | .call _ =>
    let n := numbering.calls + 1
    { numbering with calls := n, names := (draw, "call" ++ toString n) :: numbering.names }
  | .session =>
    let n := numbering.sessions + 1
    { numbering with sessions := n, names := (draw, "sid" ++ toString n) :: numbering.names }

/-- Meets an identifier; a draw that is met for the first time gets its name. -/
def meet (numbering : Numbering) : Identifier → Numbering
  | .given _ => numbering
  | .drawn draw use =>
    if (numbering.names.lookup draw).isSome then numbering else numbering.add draw use

end Numbering

end ImsClient
