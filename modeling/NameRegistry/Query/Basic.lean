import NameRegistry.Query.Page
import NameRegistry.Registry.Domains
/-!
Queries. A name resolves to its record; a list is read from the keys of a domain's accounts or
from an index, one page at a time.
-/
namespace NameRegistry

/-- What can be asked about the registry. -/
inductive Query
  | resolveDomain (name : String)
  | resolveAccount (domain name : String)
  | accountsInDomain (domain : String) (page : Page)
  | domainsOwnedBy (owner : Address) (page : Page)
  | accountsOwnedBy (owner : Address) (page : Page)
  | accountsByTarget (target : Target) (page : Page)
  | accountsByCertificate (certificate : Bytes) (page : Page)
  deriving DecidableEq

/-- What a query finds. -/
inductive Response
  | domain (domain : Domain)
  | account (account : Account)
  | accounts (accounts : List Account)
  | domains (domains : List Domain)
  deriving DecidableEq

namespace Registry

variable {σ : Type} [KeyValueStore σ]

def resolveDomain (store : σ) (name : String) : Except Error Domain := do
  let some domain ← domain? store name | throw ⟨.domainDoesNotExist, name⟩
  return domain

def resolveAccount (store : σ) (domain name : String) : Except Error Account := do
  let some account ← account? store domain name
    | throw ⟨.accountDoesNotExist, fullName domain name⟩
  return account

/-- One page of the accounts that objects of an index stand for. -/
def accountsOfObjects (store : σ) (objects : List Bytes) (page : Page) :
    Except Error (List Account) := do
  (← page.slice objects).mapM (accountOfObject store)

/-- Refuses to look for what the empty address owns. -/
def requireOwner (owner : Address) : Except Error Unit :=
  require (!owner.isEmpty) .invalidOwner "the empty address owns nothing"

/-- A result whose error is reported as one of the given kind. -/
def reportAs {α : Type} (kind : ErrorKind) (subject : String) (result : Except Error α) :
    Except Error α :=
  result.mapError fun error => ⟨kind, s!"{subject}: {error.message}"⟩

def answer (store : σ) : Query → Except Error Response
  | .resolveDomain name => return .domain (← resolveDomain store name)
  | .resolveAccount domain name => return .account (← resolveAccount store domain name)
  | .accountsInDomain domain page => do
    let names ← page.slice (accountNames store domain)
    return .accounts (← names.mapM (resolveAccount store domain))
  | .domainsOwnedBy owner page => do
    requireOwner owner
    let names ← page.slice (domainsOwnedBy store owner)
    return .domains (← names.mapM fun name => resolveDomain store (Utf8.decodeLossy name))
  | .accountsOwnedBy owner page => do
    requireOwner owner
    return .accounts (← accountsOfObjects store (accountsOwnedBy store owner) page)
  | .accountsByTarget target page => do
    let objects ←
      reportAs .invalidBlockchainTarget target.text (accountsByTarget store target)
    return .accounts (← accountsOfObjects store objects page)
  | .accountsByCertificate certificate page => do
    let objects ←
      reportAs .invalidRequest "certificate" (accountsByCertificate store certificate)
    return .accounts (← accountsOfObjects store objects page)

end Registry

end NameRegistry
