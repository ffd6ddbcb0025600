/-!
Arithmetic of 64-bit words in which nothing is lost: a result that is no word is missing, and
whether that stops the computation is for the caller.
-/
namespace NameRegistry

/-- Why a computation in words has no result: a number is no word, or a position is not in the
list. -/
inductive Trap
  | overflow
  | outOfRange
  deriving DecidableEq, Repr

namespace Word

/-- The signed word of an integer, if there is one. -/
def signed? (n : Int) : Option Int64 :=
  if Int64.minValue.toInt ≤ n ∧ n ≤ Int64.maxValue.toInt then some (.ofInt n) else none

/-- The unsigned word of an integer, if there is one. -/
def unsigned? (n : Int) : Option UInt64 :=
  if 0 ≤ n ∧ n < UInt64.size then some (.ofNat n.toNat) else none

/-- The greatest unsigned word. -/
def greatest : UInt64 := .ofNat (UInt64.size - 1)

/-- The result of an operation that may not leave the words. -/
def orOverflow {α : Type} : Option α → Except Trap α
  | some word => .ok word
  | none => .error .overflow

/-- The items from a first to a last position, which have to be there; the position behind the last
one has to be a word. -/
def between {α : Type} (first last : UInt64) (items : List α) : Except Trap (List α) :=
  if last ≠ greatest ∧ first.toNat ≤ last.toNat + 1 ∧ last.toNat < items.length then
    .ok (items.extract first.toNat (last.toNat + 1))
  else .error .outOfRange

end Word

end NameRegistry
