import NameRegistry.Binary.Records
import NameRegistry.Registry.Accounts
/-!
Domains in the store. A domain is indexed under its administrator when it is created, transferred
and deleted; `setDomain` writes the record and nothing else. None of this asks for permission.
-/
namespace NameRegistry.Registry

variable {σ : Type} [KeyValueStore σ]

def domain? (store : σ) (name : String) : Except Error (Option Domain) :=
  match KeyValueStore.get? store (Key.domain name) with
  | some bytes => (Domain.ofBytes bytes).map some
  | none => .ok none

def setDomain (domain : Domain) (store : σ) : σ :=
  KeyValueStore.set store (Key.domain domain.name) domain.toBytes

/-- The domains of an administrator. -/
def domainsOf (owner : Address) : Scope :=
  .ofBytes (Key.index Index.domainsByOwner.tag) owner.bytes

def indexDomain (domain : Domain) (store : σ) : σ :=
  if domain.admin.isEmpty then store
  else (domainsOf domain.admin).insert (Utf8.encode domain.name) store

def unindexDomain (domain : Domain) (store : σ) : σ :=
  if domain.admin.isEmpty then store
  else ((domainsOf domain.admin).erase (Utf8.encode domain.name) store).2

/-- Writes a new domain and indexes it. -/
def createDomain (domain : Domain) (store : σ) : σ := indexDomain domain (setDomain domain store)

/-- A domain with another administrator. -/
def transferred (domain : Domain) (newOwner : Address) : Domain :=
  { domain with admin := newOwner }

/-- Moves a domain to another administrator; its accounts stay as they are. -/
def transferDomain (domain : Domain) (newOwner : Address) (store : σ) : σ :=
  createDomain (transferred domain newOwner) (unindexDomain domain store)

def deleteAccounts (domain : String) (names : List String) : Update σ Unit :=
  names.forM fun name => discard (deleteAccount domain name)

/-- Deletes a domain with all its accounts; tells whether there was one. -/
def deleteDomain (name : String) : Update σ Bool := do
  let some domain ← domain? (← get) name | return false
  deleteAccounts name (accountNames (← get) name)
  modify fun store => unindexDomain domain (KeyValueStore.delete store (Key.domain name))
  return true

/-- Deletes the accounts of a domain but for its root account; tells whether there is such a
domain. -/
def flushDomain (name : String) : Update σ Bool := do
  let some _ ← domain? (← get) name | return false
  deleteAccounts name ((accountNames (← get) name).filter (· ≠ ""))
  return true

/-- Visits all domains in order of their names; a record that cannot be read ends the visit. -/
def visitDomains {β : Type} (store : σ) (visitor : Domain → β → ForInStep β) (state : β) :
    Except Error β :=
  visitRecords store Key.domains Domain.ofBytes visitor state

/-- All domains, in order of their names. -/
def allDomains (store : σ) : Except Error (List Domain) :=
  (visitDomains store (fun domain seen => .yield (domain :: seen)) []).map List.reverse

/-- The names of an administrator's domains, in order. -/
def domainsOwnedBy (store : σ) (owner : Address) : List Bytes :=
  if owner.isEmpty then [] else (domainsOf owner).objects store

end NameRegistry.Registry
