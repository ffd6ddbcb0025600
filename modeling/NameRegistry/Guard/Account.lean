import NameRegistry.Guard.Domain
import NameRegistry.Text.Quoted
/-!
Checks on one account. A guard looks its account up at most once; a check on the record is a fault
unless a record has been found, and a check that asks for the domain above is one unless the guard
was given it.
-/
namespace NameRegistry

/-- A condition on an account. -/
inductive AccountCheck
  | mustExist
  | mustNotExist
  | notExpired
  | owner (address : Address)
  | notRoot
  | validName
  | validTargets (targets : List Target)
  | certificateExists (certificate : Bytes)
  | certificateNotExist (certificate : Bytes)
  | certificateSize (certificate : Bytes)
  | certificateLimit
  | metadataSize (uri : String)
  | deletableBy (address : Address)
  | transferableBy (address : Address)
  deriving DecidableEq

/-- A guard of the account with the given names. `parent` is the domain above, if it was given,
`lookup` what was found, once it has been looked up, and `certificateIndex` where the certificate
stands that was last found. -/
structure AccountGuard where
  domainName : String
  name : String
  parent : Option Domain
  lookup : Option (Option Account)
  certificateIndex : Option Nat
  deriving DecidableEq

namespace AccountGuard

def of (domainName name : String) (parent : Option Domain) : AccountGuard :=
  ⟨domainName, name, parent, none, none⟩

def fullName (guard : AccountGuard) : String := NameRegistry.fullName guard.domainName guard.name

/-- The record that was found; `caller` needs it. -/
def record (guard : AccountGuard) (caller : String) : Except Failure Account :=
  match guard.lookup with
  | some (some account) => .ok account
  | _ => .error (.fault (.accountNotLoaded guard.fullName caller))

/-- The domain above; `caller` needs it. -/
def domainAbove (guard : AccountGuard) (caller : String) : Except Failure Domain :=
  match guard.parent with
  | some domain => .ok domain
  | none => .error (.fault (.parentMissing guard.fullName caller))

def account (guard : AccountGuard) : Except Failure Account := guard.record "account()"

/-- The record that was found, taken from a guard that is done. -/
def take (guard : AccountGuard) : Except Failure Account :=
  match guard.lookup with
  | some (some account) => .ok account
  | _ => .error (.fault (.accountTakenUnloaded guard.fullName))

/-- What is found under the names, and the guard that remembers it. -/
def lookUp {σ : Type} [KeyValueStore σ] (guard : AccountGuard) (store : σ) :
    Except Error (Option Account × AccountGuard) :=
  match guard.lookup with
  | some found => .ok (found, guard)
  | none => do
    let found ← Registry.account? store guard.domainName guard.name
    return (found, { guard with lookup := some found })

/-- Checks targets in order: their blockchain and address are valid, they can be indexed, and no
blockchain comes twice. `seen` are the blockchains before. -/
def checkTargets (language : PatternLanguage) (validity : Validity) (seen : List String) :
    List Target → Except Error Unit
  | [] => .ok ()
  | target :: rest => do
    require (← validity.accepts language .blockchainId target.id) .invalidBlockchainTarget
      s!"invalid blockchain id {Quoted.text target.id}"
    require (← validity.accepts language .blockchainAddress target.address) .invalidBlockchainTarget
      s!"invalid address {Quoted.text target.address} for blockchain {target.id}"
    match Key.targetSubject target with
    | .ok _ =>
      require (!seen.contains target.id) .invalidBlockchainTarget
        s!"duplicate blockchain id {target.id}"
      checkTargets language validity (target.id :: seen) rest
    | .error error => throw ⟨.invalidBlockchainTarget, s!"{target.text}: {error.message}"⟩

/-- Whether an address may transfer an account: in a closed domain its administrator, in an opened
one the owner of the account. -/
def mayTransfer (domain : Domain) (account : Account) (address : Address) : Bool :=
  match domain.domainType with
  | .closed => domain.admin = address
  | .opened => account.owner = address

/-- A check that neither looks the account up nor notes anything. -/
def test {σ : Type} (guard : AccountGuard) (situation : Situation σ) :
    AccountCheck → Except Failure Unit
  | .mustExist | .mustNotExist | .certificateExists _ => .ok ()
  | .notExpired => do
    let account ← guard.record "NotExpired"
    require (!account.isExpired situation.context) .accountExpired
      s!"{account.fullName} expired at {account.validUntil}"
  | .owner address => do
    let account ← guard.record "Owner"
    require (account.owner = address) .unauthorized
      s!"{address} does not own account {account.fullName}"
  | .notRoot =>
    require (guard.name ≠ "") .invalidRequest
      s!"{guard.fullName} is the root account of its domain"
  | .validName => do
    let valid ← situation.config.validity.accepts situation.language .accountName guard.name
    require valid .invalidAccountName guard.fullName
  | .validTargets targets => do
    let most := situation.config.targetsMax
    require (targets.length ≤ most.toNat) .invalidRequest
      s!"{targets.length} targets exceed the limit of {most}"
    checkTargets situation.language situation.config.validity [] targets
  | .certificateNotExist certificate => do
    let account ← guard.record "CertificateNotExist"
    require (!account.certificates.contains certificate) .certificateExists
      s!"{Hex.encode certificate} on account {account.fullName}"
  | .certificateSize certificate =>
    let most := situation.config.certificateSizeMax
    let size := certificate.length
    require (1 ≤ size && size ≤ most.toNat) .invalidRequest
      s!"certificate size {size} must be within 1..={most}"
  | .certificateLimit => do
    let most := situation.config.certificatesMax
    let account ← guard.record "CertificateLimit"
    require (account.certificates.length < most.toNat) .invalidRequest
      s!"account {account.fullName} already holds the maximum of {most} certificates"
  | .metadataSize uri =>
    let most := situation.config.metadataSizeMax
    let size := Utf8.size uri
    require (size ≤ most.toNat) .invalidRequest
      s!"metadata URI of {size} bytes exceeds the limit of {most}"
  | .deletableBy address => do
    let domain ← guard.domainAbove "DeletableBy"
    let account ← guard.record "DeletableBy"
    require (account.owner = address || domain.admin = address) .unauthorized
      s!"{address} may not delete account {account.fullName}"
  | .transferableBy address => do
    let domain ← guard.domainAbove "TransferableBy"
    let account ← guard.record "TransferableBy"
    require (mayTransfer domain account address) .unauthorized
      (s!"{address} may not transfer account {account.fullName} " ++
        s!"of {domain.domainType} domain {domain.name}")

variable {σ : Type} [KeyValueStore σ]

/-- One check. The guard remembers what it has looked up also if the check fails. -/
def check (situation : Situation σ) (check : AccountCheck) : Update AccountGuard Unit := do
  match check with
  | .mustExist =>
    let (found, guard) ← (← get).lookUp situation.store
    set guard
    require found.isSome .accountDoesNotExist guard.fullName
  | .mustNotExist =>
    let (found, guard) ← (← get).lookUp situation.store
    set guard
    require found.isNone .accountExists guard.fullName
  | .certificateExists certificate =>
    let guard ← get
    let account ← guard.record "CertificateExists"
    match account.certificates.idxOf? certificate with
    | some position => set { guard with certificateIndex := some position }
    | none =>
      throw (.error ⟨.certificateDoesNotExist,
        s!"{Hex.encode certificate} on account {guard.fullName}"⟩)
  | check => (← get).test situation check

/-- Checks in order, up to the first that fails. -/
def validate (situation : Situation σ) (checks : List AccountCheck) :
    Update AccountGuard Unit :=
  checks.forM (check situation)

end AccountGuard

end NameRegistry
