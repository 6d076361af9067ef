namespace BpnDirectory

/-!
A place for one built value that changes may outdate.

Building takes time, and a change may come in between.  A builder therefore takes
the generation of the shelf first and hands it back with what was built: only a
build that no change has overtaken is kept.
-/

structure Shelf (α : Type) where
  /-- Number of changes so far. -/
  generation : Nat
  kept : Option α

namespace Shelf

variable {α : Type}

def empty : Shelf α := ⟨0, none⟩

/-- Keeps a build that was begun at a generation, unless a change came since.
Says whether it is kept. -/
def install (shelf : Shelf α) (generation : Nat) (built : α) : Bool × Shelf α :=
  if shelf.generation = generation then (true, { shelf with kept := some built })
  else (false, shelf)

def invalidate (shelf : Shelf α) : Shelf α :=
  ⟨shelf.generation + 1, none⟩

end Shelf
end BpnDirectory
