import NameRegistry.Message
import NameRegistry.Registry.Domains
/-!
Changes: what is left to do for a message that has been accepted.
-/
namespace NameRegistry

/-- What an accepted message does to the store. -/
inductive Change
  | createDomain (domain : Domain) (root : Account)
  | setDomain (domain : Domain)
  | deleteDomain (name : String)
  | transferDomain (domain : Domain) (newAdmin : Address) (flag : TransferFlag)
  | flushDomain (name : String)
  | createAccount (account : Account)
  | setAccount (account : Account)
  | deleteAccount (domain name : String)
  | transferAccount (account : Account) (newOwner : Address) (reset : Bool)
  | addCertificate (account : Account) (certificate : Bytes)
  | deleteCertificate (account : Account) (position : Nat)
  | replaceTargets (account : Account) (targets : List Target)
  | replaceMetadata (account : Account) (uri : String)
  deriving DecidableEq

namespace Change

open Registry

variable {σ : Type} [KeyValueStore σ]

/-- Moves the account of the given names to `newOwner` if `owner` has it. -/
def transferIfOwned (domain : String) (owner newOwner : Address) (name : String) :
    Update σ Unit := do
  let some account ← account? (← get) domain name | return
  if account.owner = owner then
    discard (Registry.transferAccount account newOwner false)

/-- What a transfer of a domain does to the accounts other than the root account. -/
def settleAccounts (domain : Domain) (newAdmin : Address) : TransferFlag → Update σ Unit
  | .flush => discard (Registry.flushDomain domain.name)
  | .owned => do
    let names := (accountNames (← get) domain.name).filter (· ≠ "")
    names.forM (transferIfOwned domain.name domain.admin newAdmin)
  | .leave => return

/-- Moves a domain to another administrator, who becomes the owner of the root account too; that
one is cleared. -/
def moveDomain (domain : Domain) (newAdmin : Address) (flag : TransferFlag) : Update σ Unit := do
  modify (Registry.transferDomain domain newAdmin)
  settleAccounts domain newAdmin flag
  let some root ← account? (← get) domain.name "" | return
  discard (Registry.transferAccount root newAdmin true)

def apply : Change → Update σ Unit
  | createDomain domain root => do
    modify (Registry.createDomain domain)
    Registry.createAccount root
  | setDomain domain => modify (Registry.setDomain domain)
  | deleteDomain name => discard (Registry.deleteDomain name)
  | transferDomain domain newAdmin flag => moveDomain domain newAdmin flag
  | flushDomain name => discard (Registry.flushDomain name)
  | createAccount account => Registry.createAccount account
  | setAccount account => modify (Registry.setAccount account)
  | deleteAccount domain name => discard (Registry.deleteAccount domain name)
  | transferAccount account newOwner reset =>
    discard (Registry.transferAccount account newOwner reset)
  | addCertificate account certificate => discard (Registry.addCertificate account certificate)
  | deleteCertificate account position => discard (Registry.deleteCertificate account position)
  | replaceTargets account targets => discard (Registry.replaceTargets account targets)
  | replaceMetadata account uri => discard (Registry.replaceMetadata account uri)

end Change

end NameRegistry
