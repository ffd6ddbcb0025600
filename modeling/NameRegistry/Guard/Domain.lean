import NameRegistry.Guard.Situation
import NameRegistry.Registry.Domains
/-!
Checks on one domain. A guard looks its domain up at most once; what the checks ask for is then
the record that was found. A check on the record is a fault unless a record has been found.
-/
namespace NameRegistry

/-- A condition on a domain. -/
inductive DomainCheck
  | mustExist
  | mustNotExist
  | notExpired
  | admin (address : Address)
  | type (expected : DomainType)
  | gracePeriodFinished
  | validName
  deriving DecidableEq

/-- A guard of the domain with the given name; `lookup` is what was found under it, once it has
been looked up. -/
structure DomainGuard where
  name : String
  lookup : Option (Option Domain)
  deriving DecidableEq

namespace DomainGuard

def of (name : String) : DomainGuard := ⟨name, none⟩

/-- The record that was found; `caller` needs it. -/
def record (guard : DomainGuard) (caller : String) : Except Failure Domain :=
  match guard.lookup with
  | some (some domain) => .ok domain
  | _ => .error (.fault (.domainNotLoaded guard.name caller))

def domain (guard : DomainGuard) : Except Failure Domain := guard.record "domain()"

/-- The record that was found, taken from a guard that is done. -/
def take (guard : DomainGuard) : Except Failure Domain :=
  match guard.lookup with
  | some (some domain) => .ok domain
  | _ => .error (.fault (.domainTakenUnloaded guard.name))

/-- What is found under the name, and the guard that remembers it. -/
def lookUp {σ : Type} [KeyValueStore σ] (guard : DomainGuard) (store : σ) :
    Except Error (Option Domain × DomainGuard) :=
  match guard.lookup with
  | some found => .ok (found, guard)
  | none => do
    let found ← Registry.domain? store guard.name
    return (found, { guard with lookup := some found })

/-- The end of the time in which only the administrator may delete a domain. -/
def reclaimableAfter (config : Config) (domain : Domain) : Int64 :=
  addSeconds domain.validUntil config.domainGrace.wholeSeconds

/-- Whether a domain name is valid: it has no separator and matches the pattern. -/
def isValidName (language : PatternLanguage) (config : Config) (name : String) :
    Except Error Bool :=
  if (Utf8.encode name).contains separator then .ok false
  else config.validity.accepts language .domainName name

/-- A check that does not look the domain up. -/
def test {σ : Type} (guard : DomainGuard) (situation : Situation σ) :
    DomainCheck → Except Failure Unit
  | .mustExist | .mustNotExist => .ok ()
  | .notExpired => do
    let domain ← guard.record "NotExpired"
    require (!domain.isExpired situation.context) .domainExpired
      s!"{domain.name} expired at {domain.validUntil}"
  | .admin address => do
    let domain ← guard.record "Admin"
    require (domain.admin = address) .unauthorized
      s!"{address} is not the admin of domain {domain.name}"
  | .type expected => do
    let domain ← guard.record "Type"
    require (domain.domainType = expected) .invalidDomainType
      s!"domain {domain.name} is {domain.domainType}, expected {expected}"
  | .gracePeriodFinished => do
    let domain ← guard.record "GracePeriodFinished"
    let instant := reclaimableAfter situation.config domain
    require (situation.context.isAfter instant) .gracePeriodNotFinished
      s!"domain {domain.name} is protected until {instant}"
  | .validName => do
    require (← isValidName situation.language situation.config guard.name) .invalidDomainName
      guard.name

variable {σ : Type} [KeyValueStore σ]

/-- One check. The guard remembers what it has looked up also if the check fails. -/
def check (situation : Situation σ) (check : DomainCheck) : Update DomainGuard Unit := do
  match check with
  | .mustExist =>
    let (found, guard) ← (← get).lookUp situation.store
    set guard
    require found.isSome .domainDoesNotExist guard.name
  | .mustNotExist =>
    let (found, guard) ← (← get).lookUp situation.store
    set guard
    require found.isNone .domainAlreadyExists guard.name
  | check => (← get).test situation check

/-- Checks in order, up to the first that fails. -/
def validate (situation : Situation σ) (checks : List DomainCheck) : Update DomainGuard Unit :=
  checks.forM (check situation)

end DomainGuard

end NameRegistry
