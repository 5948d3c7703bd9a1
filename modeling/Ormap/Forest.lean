/-!
# Forests — walks up a parent link and down to children

Both walks take a bound on their length.  In a forest the number of nodes is bound enough; a walk up that runs out of
it has found a loop.
-/
namespace Ormap
namespace Forest

/-- The nodes above a node, nearest first, if a node without parent is reached within `bound` steps. -/
def ascend (parent : α → Option α) : Nat → α → Option (List α)
  | 0, a => match parent a with
    | none => some []
    | some _ => none
  | bound + 1, a => match parent a with
    | none => some []
    | some b => (ascend parent bound b).map (b :: ·)

/-- The nodes below a node down to a depth, each before those below it, children in their order. -/
def descend (children : α → List α) : Nat → α → List α
  | 0, _ => []
  | depth + 1, a => (children a).flatMap fun b => b :: descend children depth b

end Forest
end Ormap
