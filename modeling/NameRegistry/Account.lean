import NameRegistry.Address
import NameRegistry.Context
import NameRegistry.Target
/-!
Accounts: the names under a domain. The account without a name is the root account of its domain.
-/
namespace NameRegistry

/-- The end of the year 9999, which stands for an account that never expires. -/
def neverExpires : Int64 := 253402300799

/-- The human-readable form of an account's names. -/
def fullName (domain name : String) : String := s!"{name}*{domain}"

/-- The record of an account. It is valid through the second `validUntil`. -/
structure Account where
  domain : String
  name : String
  owner : Address
  validUntil : Int64
  targets : List Target
  certificates : List Bytes
  broker : Option Address
  metadataUri : String
  deriving DecidableEq

namespace Account

def plain (domain name : String) (owner : Address) (validUntil : Int64) : Account :=
  ⟨domain, name, owner, validUntil, [], [], none, ""⟩

def isRoot (account : Account) : Bool := account.name = ""

def isExpired (account : Account) (context : Context) : Bool :=
  context.isAfter account.validUntil

/-- The human-readable form of an account's names. -/
def fullName (account : Account) : String := NameRegistry.fullName account.domain account.name

end Account

end NameRegistry
