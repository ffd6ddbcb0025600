import NameRegistry.Address
import NameRegistry.Context
/-!
Domains: the names at the top, each with an administrator and accounts under it.
-/
namespace NameRegistry

/-- How a domain is governed. In an opened domain anyone may register an account and has it for
their own; in a closed one the administrator governs every account. -/
inductive DomainType
  | opened
  | closed
  deriving DecidableEq, Repr

namespace DomainType

/-- The word for a type in messages. -/
def text : DomainType → String
  | opened => "open"
  | closed => "closed"

/-- The name of a type in JSON. -/
def name : DomainType → String
  | opened => "Open"
  | closed => "Closed"

def ofName? (name : String) : Option DomainType :=
  [opened, closed].find? fun domainType => domainType.name = name

instance : ToString DomainType := ⟨text⟩

end DomainType

/-- The record of a domain. It is valid through the second `validUntil`; a renewal adds
`accountRenewal` seconds to an account of it. -/
structure Domain where
  name : String
  admin : Address
  validUntil : Int64
  domainType : DomainType
  accountRenewal : Int64
  broker : Option Address
  deriving DecidableEq

def Domain.isExpired (domain : Domain) (context : Context) : Bool :=
  context.isAfter domain.validUntil

end NameRegistry
