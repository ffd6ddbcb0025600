/-!
Times in seconds since 1970, and parts of a second.
-/
namespace NameRegistry

/-- The sum of two times or periods in seconds, held at the ends of the range. -/
def addSeconds (a b : Int64) : Int64 := .ofIntClamp (a.toInt + b.toInt)

/-- A part of a second, in nanoseconds. -/
structure Nanos where
  value : Nat
  lt_second : value < 1000000000
  deriving DecidableEq, Repr

namespace Nanos

def zero : Nanos := ⟨0, by decide⟩

/-- What a number of nanoseconds amounts to beside whole seconds. -/
def ofTotal (total : Nat) : Nanos := ⟨total % 1000000000, Nat.mod_lt total (by decide)⟩

end Nanos

end NameRegistry
