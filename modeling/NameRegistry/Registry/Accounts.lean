import NameRegistry.Binary.Records
import NameRegistry.Scope
/-!
Accounts in the store. An account is indexed under its owner, its targets and its certificates;
every operation here moves the entries of what it changes, except that `setAccount` writes the
record and nothing else. A target or certificate that cannot be packed cannot be indexed, and what
has been written before it stays written. None of this asks for permission.
-/
namespace NameRegistry

/-- An account as the object of an index. -/
def Account.object (account : Account) : Bytes := Key.object account.domain account.name

namespace Registry

variable {σ : Type} [KeyValueStore σ]

def account? (store : σ) (domain name : String) : Except Error (Option Account) :=
  match KeyValueStore.get? store (Key.account domain name) with
  | some bytes => (Account.ofBytes bytes).map some
  | none => .ok none

def setAccount (account : Account) (store : σ) : σ :=
  KeyValueStore.set store (Key.account account.domain account.name) account.toBytes

/-- The accounts of an owner. -/
def accountsOf (owner : Address) : Scope :=
  .ofBytes (Key.index Index.accountsByOwner.tag) owner.bytes

/-- The accounts that resolve to a target. -/
def accountsAt (target : Target) : Except Error Scope :=
  return .ofBytes (Key.index Index.accountsByTarget.tag) (← Key.targetSubject target)

/-- The accounts that hold a certificate. -/
def accountsWith (certificate : Bytes) : Except Error Scope :=
  return .ofBytes (Key.index Index.accountsByCertificate.tag) (← Key.certificateSubject certificate)

/-- Puts an account into the index of its owner. -/
def indexOwner (account : Account) (store : σ) : σ :=
  if account.owner.isEmpty then store
  else (accountsOf account.owner).insert account.object store

def unindexOwner (account : Account) (store : σ) : σ :=
  if account.owner.isEmpty then store
  else ((accountsOf account.owner).erase account.object store).2

/-- Puts an object into a scope, if there is such a scope. -/
def index (scope : Except Error Scope) (object : Bytes) : Update σ Unit := do
  let scope ← scope
  modify (scope.insert object)

/-- Takes an object out of a scope, if there is such a scope. -/
def unindex (scope : Except Error Scope) (object : Bytes) : Update σ Unit := do
  let scope ← scope
  modify fun store => (scope.erase object store).2

def indexTargets (account : Account) : Update σ Unit :=
  account.targets.forM fun target => index (accountsAt target) account.object

def unindexTargets (account : Account) : Update σ Unit :=
  account.targets.forM fun target => unindex (accountsAt target) account.object

def indexCertificates (account : Account) : Update σ Unit :=
  account.certificates.forM fun certificate => index (accountsWith certificate) account.object

def unindexCertificates (account : Account) : Update σ Unit :=
  account.certificates.forM fun certificate => unindex (accountsWith certificate) account.object

/-- Writes a new account and indexes it. -/
def createAccount (account : Account) : Update σ Unit := do
  modify fun store => indexOwner account (setAccount account store)
  indexTargets account
  indexCertificates account

/-- Deletes an account; tells whether there was one. -/
def deleteAccount (domain name : String) : Update σ Bool := do
  let some account ← account? (← get) domain name | return false
  modify (unindexOwner account)
  unindexTargets account
  unindexCertificates account
  modify fun store => KeyValueStore.delete store (Key.account domain name)
  return true

/-- An account without anything that its owner put into it. -/
def cleared (account : Account) : Account :=
  { account with targets := [], certificates := [], metadataUri := "" }

/-- Moves an account to another owner. With `reset` it is cleared. -/
def transferAccount (account : Account) (newOwner : Address) (reset : Bool) :
    Update σ Account := do
  modify (unindexOwner account)
  if reset then
    unindexTargets account
    unindexCertificates account
  let updated := { if reset then cleared account else account with owner := newOwner }
  modify fun store => indexOwner updated (setAccount updated store)
  return updated

def addCertificate (account : Account) (certificate : Bytes) : Update σ Account := do
  let updated := { account with certificates := account.certificates ++ [certificate] }
  modify (setAccount updated)
  index (accountsWith certificate) updated.object
  return updated

/-- Takes the certificate at `position` from an account. There has to be one. -/
def deleteCertificate (account : Account) (position : Nat) : Update σ Account := do
  match account.certificates[position]? with
  | none =>
    throw (.fault (.certificateIndexOutOfRange position account.certificates.length
      account.fullName))
  | some certificate =>
    let updated := { account with certificates := account.certificates.eraseIdx position }
    modify (setAccount updated)
    unindex (accountsWith certificate) updated.object
    return updated

def replaceTargets (account : Account) (targets : List Target) : Update σ Account := do
  unindexTargets account
  let updated := { account with targets := targets }
  modify (setAccount updated)
  indexTargets updated
  return updated

def replaceMetadata (account : Account) (uri : String) : Update σ Account := do
  let updated := { account with metadataUri := uri }
  modify (setAccount updated)
  return updated

/-- Visits the accounts of a domain by their names, in order. -/
def visitAccountsIn {β : Type} (store : σ) (domain : String)
    (visitor : Bytes → β → ForInStep β) (state : β) : β :=
  let stem := Key.accountsIn domain
  KeyValueStore.visit store stem (fun key _ state => visitor (key.drop stem.length) state) state

/-- The names of the accounts of a domain, in order. -/
def accountNames (store : σ) (domain : String) : List String :=
  (visitAccountsIn store domain (fun name seen => .yield (Utf8.decodeLossy name :: seen))
    []).reverse

/-- Visits records under a stem; one that cannot be read ends the visit. -/
def visitRecords {ρ β : Type} (store : σ) (stem : Bytes) (read : Bytes → Except Error ρ)
    (visitor : ρ → β → ForInStep β) (state : β) : Except Error β :=
  KeyValueStore.visit store stem
    (fun _ value state =>
      match state, read value with
      | .error error, _ => .done (.error error)
      | .ok _, .error error => .done (.error error)
      | .ok state, .ok record =>
        match visitor record state with
        | .done state => .done (.ok state)
        | .yield state => .yield (.ok state))
    (.ok state)

/-- Visits all accounts in order of their keys; a record that cannot be read ends the visit. -/
def visitAccounts {β : Type} (store : σ) (visitor : Account → β → ForInStep β) (state : β) :
    Except Error β :=
  visitRecords store Key.accounts Account.ofBytes visitor state

/-- The objects of an owner's accounts, in order. -/
def accountsOwnedBy (store : σ) (owner : Address) : List Bytes :=
  if owner.isEmpty then [] else (accountsOf owner).objects store

/-- The objects of the accounts that resolve to a target, in order. -/
def accountsByTarget (store : σ) (target : Target) : Except Error (List Bytes) :=
  return (← accountsAt target).objects store

/-- The objects of the accounts that hold a certificate, in order. -/
def accountsByCertificate (store : σ) (certificate : Bytes) : Except Error (List Bytes) :=
  return (← accountsWith certificate).objects store

/-- The account that an object of an index stands for. -/
def accountOfObject (store : σ) (object : Bytes) : Except Error Account := do
  let (domain, name) ← Key.splitObject object
  let some account ← account? store domain name
    | throw ⟨.accountDoesNotExist, s!"{fullName domain name} is indexed but has no record"⟩
  return account

end Registry

end NameRegistry
