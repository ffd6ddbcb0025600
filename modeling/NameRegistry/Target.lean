/-!
Targets: where a name resolves to on another chain.
-/
namespace NameRegistry

/-- An address on the blockchain with the given identifier. -/
structure Target where
  id : String
  address : String
  deriving DecidableEq, Repr

/-- A target as messages name it. -/
def Target.text (target : Target) : String := s!"{target.id}:{target.address}"

end NameRegistry
