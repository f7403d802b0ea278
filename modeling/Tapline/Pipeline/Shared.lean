import Tapline.Notice
/-!
# One for the whole program

Something that a whole program shares is installed once. Whoever installs another one later gets
the first one back, and the attempt is noted.
-/

namespace Tapline

/-- A place for something that the whole program shares. -/
structure Shared (α : Type u) where
  installed : Option α

namespace Shared

def vacant {α : Type u} : Shared α := ⟨none⟩

/-- Installs something unless the place is taken, and gives what is installed. -/
def install {α : Type u} (place : Shared α) (candidate : α) : α × Shared α × List Notice :=
  match place.installed with
  | none => (candidate, ⟨some candidate⟩, [])
  | some first => (first, place, [.globalManagerKept])

end Shared

end Tapline
