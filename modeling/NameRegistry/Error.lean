/-!
Errors of the registry. Every rule that an operation can break has a kind; the detail names the
domain, account or field at fault and may be wrapped in further context.
-/
namespace NameRegistry

/-- The rule that was broken. -/
inductive ErrorKind
  | domainDoesNotExist
  | domainAlreadyExists
  | domainExpired
  | domainNotExpired
  | gracePeriodNotFinished
  | invalidDomainName
  | invalidDomainType
  | accountDoesNotExist
  | accountExists
  | accountExpired
  | invalidAccountName
  | unauthorized
  | invalidOwner
  | invalidBlockchainTarget
  | certificateExists
  | certificateDoesNotExist
  | invalidRequest
  | codec
  | serialization
  | config
  | fee
  deriving DecidableEq, Repr

namespace ErrorKind

def all : List ErrorKind :=
  [domainDoesNotExist, domainAlreadyExists, domainExpired, domainNotExpired,
    gracePeriodNotFinished, invalidDomainName, invalidDomainType, accountDoesNotExist,
    accountExists, accountExpired, invalidAccountName, unauthorized, invalidOwner,
    invalidBlockchainTarget, certificateExists, certificateDoesNotExist, invalidRequest, codec,
    serialization, config, fee]

/-- The name of a kind, as clients compare it. -/
def name : ErrorKind → String
  | domainDoesNotExist => "DomainDoesNotExist"
  | domainAlreadyExists => "DomainAlreadyExists"
  | domainExpired => "DomainExpired"
  | domainNotExpired => "DomainNotExpired"
  | gracePeriodNotFinished => "GracePeriodNotFinished"
  | invalidDomainName => "InvalidDomainName"
  | invalidDomainType => "InvalidDomainType"
  | accountDoesNotExist => "AccountDoesNotExist"
  | accountExists => "AccountExists"
  | accountExpired => "AccountExpired"
  | invalidAccountName => "InvalidAccountName"
  | unauthorized => "Unauthorized"
  | invalidOwner => "InvalidOwner"
  | invalidBlockchainTarget => "InvalidBlockchainTarget"
  | certificateExists => "CertificateExists"
  | certificateDoesNotExist => "CertificateDoesNotExist"
  | invalidRequest => "InvalidRequest"
  | codec => "Codec"
  | serialization => "Serialization"
  | config => "Config"
  | fee => "Fee"

def ofName? (name : String) : Option ErrorKind := all.find? fun kind => kind.name = name

/-- The words that an error message of this kind begins with. -/
def heading : ErrorKind → String
  | domainDoesNotExist => "domain does not exist"
  | domainAlreadyExists => "domain already exists"
  | domainExpired => "domain has expired"
  | domainNotExpired => "domain has not expired"
  | gracePeriodNotFinished => "domain grace period has not finished"
  | invalidDomainName => "invalid domain name"
  | invalidDomainType => "invalid domain type"
  | accountDoesNotExist => "account does not exist"
  | accountExists => "account already exists"
  | accountExpired => "account has expired"
  | invalidAccountName => "invalid account name"
  | unauthorized => "unauthorized"
  | invalidOwner => "invalid owner"
  | invalidBlockchainTarget => "invalid blockchain target"
  | certificateExists => "certificate already exists"
  | certificateDoesNotExist => "certificate does not exist"
  | invalidRequest => "invalid request"
  | codec => "key codec error"
  | serialization => "serialization error"
  | config => "configuration error"
  | fee => "fee collection error"

/-- Whether a kind says that a record is missing. -/
def isNotFound : ErrorKind → Bool
  | domainDoesNotExist | accountDoesNotExist => true
  | _ => false

end ErrorKind

/-- A broken rule with the detail of the case. -/
structure Error where
  kind : ErrorKind
  detail : String
  deriving DecidableEq, Repr

namespace Error

def message (error : Error) : String := s!"{error.kind.heading}: {error.detail}"

/-- The same error seen from an enclosing operation: the context comes before the detail. -/
def context (error : Error) (context : String) : Error :=
  { error with detail := s!"{context}: {error.detail}" }

end Error

/-- A result with the context of the enclosing operation in its error. -/
def withContext {α : Type} (context : String) (result : Except Error α) : Except Error α :=
  result.mapError fun error => error.context context

/-- Passes if a condition holds and fails otherwise. -/
def require (condition : Bool) (kind : ErrorKind) (detail : String) : Except Error Unit :=
  if condition then .ok () else .error ⟨kind, detail⟩

end NameRegistry
