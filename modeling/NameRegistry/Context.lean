import NameRegistry.Time
/-!
The block that a message or a query is processed in. Its time is the only clock there is: a whole
second and a part of the next, within the range of the calendar.
-/
namespace NameRegistry

/-- A part of a second of a block, in nanoseconds. Within a leap second, which goes on with the
second before it, that is more than a whole second. -/
structure Subsecond where
  value : Nat
  lt_two_seconds : value < 2000000000
  deriving DecidableEq, Repr

def Subsecond.zero : Subsecond := ⟨0, by decide⟩

/-- The time of a block, in seconds since 1970 and nanoseconds, and its height. -/
structure Context where
  seconds : Int
  nanos : Subsecond
  height : UInt64
  in_calendar : -8334601228800 ≤ seconds ∧ seconds ≤ 8210266876799
  deriving DecidableEq

namespace Context

/-- The block at the given whole second. A second that the calendar does not have stands for the
first one that it has. -/
def atSecond (second : Int64) : Context :=
  if h : -8334601228800 ≤ second.toInt ∧ second.toInt ≤ 8210266876799 then
    ⟨second.toInt, .zero, 0, h⟩
  else ⟨-8334601228800, .zero, 0, by decide⟩

/-- The time in whole seconds, rounded down. -/
def now (context : Context) : Int64 := .ofInt context.seconds

/-- Whether the block comes after the given instant; any part of a second past it counts. -/
def isAfter (context : Context) (second : Int64) : Bool :=
  second.toInt < context.seconds || (context.seconds = second.toInt && 0 < context.nanos.value)

end Context

end NameRegistry
