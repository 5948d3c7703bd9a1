/-!
# Cells by name — association lists whose names stay distinct

A name that is there already keeps its place and takes the new content; a new name goes to the end.
-/
namespace Ormap

/-- Contents by name, in the order in which the names came. -/
abbrev Cells (α : Type) := List (String × α)

namespace Cells

def get? (name : String) : Cells α → Option α
  | [] => none
  | (n, x) :: rest => if n = name then some x else get? name rest

def set (name : String) (x : α) : Cells α → Cells α
  | [] => [(name, x)]
  | (n, y) :: rest => if n = name then (n, x) :: rest else (n, y) :: set name x rest

def erase (name : String) (cells : Cells α) : Cells α := cells.filter (·.1 != name)

def names (cells : Cells α) : List String := cells.map (·.1)

/-- Whether two lists give the same names contents that agree, whatever the order. -/
def agree (same : α → α → Bool) (xs ys : Cells α) : Bool :=
  xs.length == ys.length && xs.all fun p => match get? p.1 ys with
    | some y => same p.2 y
    | none => false

end Cells
end Ormap
