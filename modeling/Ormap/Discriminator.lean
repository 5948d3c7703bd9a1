import Ormap.Descriptor
import Ormap.Text.Blank
import Ormap.Text.Numeral
import Ormap.Value
/-!
# Discriminator values — declared as text, stored as the kind of their column asks

Two declared texts are one value when they are equal after coercion: `7`, ` +7 ` and `07` are one integer.
-/
namespace Ormap

/-- Why a declared text is no value of its kind. -/
inductive CoercionFault where
  | notOneCharacter (raw : String)
  | notInteger (raw : String)
deriving DecidableEq, Repr

def CoercionFault.message : CoercionFault → String
  | notOneCharacter raw => s!"'{raw}' is not a single character"
  | notInteger raw => s!"'{raw}' is not an integer"

namespace DiscriminatorKind

/-- The integer of 64 bits that a text holds between blanks. -/
def integer64? (raw : String) : Option Int64 :=
  (Text.integer? (Text.trim raw.toList)).bind fun n =>
    if Attribute.fits 64 n then some (Int64.ofInt n) else none

/-- The value of a declared text. -/
def coerce (kind : DiscriminatorKind) (raw : String) : Except CoercionFault Value :=
  match kind with
  | char => if raw.length = 1 then .ok (.text raw) else .error (.notOneCharacter raw)
  | string => .ok (.text raw)
  | integer => match integer64? raw with
    | some n => .ok (.integer n)
    | none => .error (.notInteger raw)

end DiscriminatorKind
end Ormap
