/-!
# Write-once cells — the first content stays

A cell that is empty takes a content; from then on it refuses every other.  Whoever waits for the content is answered as
soon as there is one.
-/
namespace Ormap

/-- A cell for one content. -/
structure Once (α : Type) where
  content : Option α := none
deriving DecidableEq, Repr

namespace Once

def isFilled (o : Once α) : Bool := o.content.isSome

/-- The cell with a content, which stays the earlier one if there is one. -/
def fill (o : Once α) (a : α) : Once α :=
  match o.content with
  | some _ => o
  | none => ⟨some a⟩

end Once
end Ormap
