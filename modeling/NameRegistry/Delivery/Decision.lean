import NameRegistry.Delivery.Change
import NameRegistry.Guard.Account
/-!
Decisions: whether a message is accepted, and the change that it then asks for. Nothing is written
before the decision has been made.
-/
namespace NameRegistry.Decision

variable {σ : Type} [KeyValueStore σ]

/-- The domain of a name, if it passes the checks. -/
def loadDomain (situation : Situation σ) (name : String) (checks : List DomainCheck) :
    Except Failure Domain :=
  Update.evaluate
    (do
      DomainGuard.validate situation checks
      (← get).take)
    (DomainGuard.of name)

/-- The account of the given names, if it passes the checks. -/
def loadAccount (situation : Situation σ) (domain name : String) (parent : Option Domain)
    (checks : List AccountCheck) : Except Failure Account :=
  Update.evaluate
    (do
      AccountGuard.validate situation checks
      (← get).take)
    (AccountGuard.of domain name parent)

/-- What a domain and its root account are when they are registered. -/
def newDomain (situation : Situation σ) (name : String) (admin : Address)
    (domainType : DomainType) (broker : Option Address) : Domain where
  name := name
  admin := admin
  validUntil := addSeconds situation.context.now situation.config.domainRenewal.wholeSeconds
  domainType := domainType
  accountRenewal := situation.config.accountRenewal.wholeSeconds
  broker := broker

/-- The root account of a new domain. -/
def rootAccount (domain : Domain) : Account :=
  { Account.plain domain.name "" domain.admin domain.validUntil with broker := domain.broker }

/-- How long a new account of a domain is valid. -/
def firstTerm (situation : Situation σ) : DomainType → Int64
  | .closed => neverExpires
  | .opened =>
    min (addSeconds situation.context.now situation.config.accountRenewal.wholeSeconds)
      neverExpires

/-- The checks on a domain that its administrator takes something away from. -/
def administered (signer : Address) : List DomainCheck :=
  [.mustExist, .type .closed, .admin signer, .notExpired]

def onDomain (situation : Situation σ) (signer : Address) (name : String) :
    DomainAction → Except Failure Change
  | .register domainType broker => do
    require (!signer.isEmpty) .invalidOwner s!"domain {name} needs an admin"
    Update.evaluate (DomainGuard.validate situation [.mustNotExist, .validName])
      (DomainGuard.of name)
    let domain := newDomain situation name signer domainType broker
    return .createDomain domain (rootAccount domain)
  | .renew => do
    let domain ← loadDomain situation name [.mustExist]
    let renewal := situation.config.domainRenewal.wholeSeconds
    return .setDomain { domain with validUntil := addSeconds domain.validUntil renewal }
  | .delete => do
    Update.evaluate
      (do
        DomainGuard.validate situation [.mustExist, .type .closed]
        if (← (← get).domain).admin ≠ signer then
          (DomainGuard.validate situation [.gracePeriodFinished]).withContext
            s!"{signer} is not the admin")
      (DomainGuard.of name)
    return .deleteDomain name
  | .transfer newAdmin flag => do
    require (!newAdmin.isEmpty) .invalidOwner s!"domain {name} needs an admin"
    let domain ← loadDomain situation name (administered signer)
    return .transferDomain domain newAdmin flag
  | .flush => do
    let domain ← loadDomain situation name (administered signer)
    return .flushDomain domain.name

/-- The domain that an account is to be registered in by `signer`. -/
def openToRegistration (situation : Situation σ) (signer : Address) (name : String) :
    Except Failure Domain :=
  Update.evaluate
    (do
      DomainGuard.validate situation [.mustExist, .notExpired]
      if (← (← get).domain).domainType = .closed then
        (DomainGuard.validate situation [.admin signer]).withContext
          "closed domains only accept registrations from their admin"
      (← get).take)
    (DomainGuard.of name)

def onAccount (situation : Situation σ) (signer : Address) (domainName name : String) :
    AccountAction → Except Failure Change
  | .register owner targets broker => do
    require (!owner.isEmpty) .invalidOwner s!"account {fullName domainName name} needs an owner"
    let domain ← openToRegistration situation signer domainName
    Update.evaluate
      (AccountGuard.validate situation [.mustNotExist, .validName, .validTargets targets])
      (AccountGuard.of domainName name none)
    let validUntil := firstTerm situation domain.domainType
    return .createAccount
      { Account.plain domainName name owner validUntil with targets := targets, broker := broker }
  | .renew => do
    let domain ← loadDomain situation domainName [.mustExist]
    let account ← loadAccount situation domainName name none [.mustExist]
    let extended := addSeconds account.validUntil domain.accountRenewal
    return .setAccount { account with validUntil := min extended neverExpires }
  | .delete => do
    let domain ← loadDomain situation domainName [.mustExist]
    let _ ← loadAccount situation domainName name domain
      [.notRoot, .mustExist, .deletableBy signer]
    return .deleteAccount domainName name
  | .transfer newOwner reset => do
    require (!newOwner.isEmpty) .invalidOwner
      s!"account {fullName domainName name} needs an owner"
    let domain ← loadDomain situation domainName [.mustExist]
    let account ← loadAccount situation domainName name domain
      [.notRoot, .mustExist, .notExpired, .transferableBy signer]
    return .transferAccount account newOwner (reset || domain.domainType = .opened)
  | .addCertificate certificate => do
    let account ← loadAccount situation domainName name none
      [.mustExist, .owner signer, .certificateSize certificate,
        .certificateNotExist certificate, .certificateLimit]
    return .addCertificate account certificate
  | .deleteCertificate certificate =>
    Update.evaluate
      (do
        AccountGuard.validate situation
          [.mustExist, .owner signer, .certificateExists certificate]
        let guard ← get
        match guard.certificateIndex with
        | some position => return .deleteCertificate (← guard.take) position
        | none => throw (.error ⟨.certificateDoesNotExist, Hex.encode certificate⟩))
      (AccountGuard.of domainName name none)
  | .replaceTargets targets => do
    let domain ← loadDomain situation domainName [.mustExist]
    let expiry := if domain.domainType = .opened then [AccountCheck.notExpired] else []
    let account ← loadAccount situation domainName name domain
      ([.mustExist, .owner signer, .validTargets targets] ++ expiry)
    return .replaceTargets account targets
  | .replaceMetadata uri => do
    let account ← loadAccount situation domainName name none
      [.mustExist, .owner signer, .metadataSize uri]
    return .replaceMetadata account uri

def onMessage (situation : Situation σ) (message : Message) : Except Failure Change :=
  match message.action with
  | .domain name action => onDomain situation message.signer name action
  | .account domain name action => onAccount situation message.signer domain name action

end NameRegistry.Decision
