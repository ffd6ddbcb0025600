import NameRegistry.Domain
import NameRegistry.Target
/-!
Messages: what a signer asks the registry to do with one domain or one account.
-/
namespace NameRegistry

/-- What becomes of the accounts of a domain that passes to another administrator, its root account
apart: they are deleted, those that the old administrator owns pass over, or they stay. -/
inductive TransferFlag
  | flush
  | owned
  | leave
  deriving DecidableEq, Repr

namespace TransferFlag

/-- The name of a flag in JSON. -/
def name : TransferFlag → String
  | flush => "Flush"
  | owned => "Owned"
  | leave => "None"

def ofName? (name : String) : Option TransferFlag :=
  [flush, owned, leave].find? fun flag => flag.name = name

end TransferFlag

/-- What can be done with a domain. Who registers it becomes its administrator. -/
inductive DomainAction
  | register (domainType : DomainType) (broker : Option Address)
  | renew
  | delete
  | transfer (newAdmin : Address) (flag : TransferFlag)
  | flush
  deriving DecidableEq

/-- What can be done with an account. -/
inductive AccountAction
  | register (owner : Address) (targets : List Target) (broker : Option Address)
  | renew
  | delete
  | transfer (newOwner : Address) (reset : Bool)
  | addCertificate (certificate : Bytes)
  | deleteCertificate (certificate : Bytes)
  | replaceTargets (targets : List Target)
  | replaceMetadata (uri : String)
  deriving DecidableEq

/-- An action with the domain or the account that it is for. -/
inductive Action
  | domain (name : String) (action : DomainAction)
  | account (domain name : String) (action : AccountAction)
  deriving DecidableEq

/-- An action that someone has signed. The fee is paid by the signer unless another payer is
named. -/
structure Message where
  signer : Address
  feePayer : Option Address
  action : Action
  deriving DecidableEq

namespace Message

def payer (message : Message) : Address := message.feePayer.getD message.signer

/-- The name under which fees are listed. -/
def route (message : Message) : String :=
  match message.action with
  | .domain _ (.register _ _) => "register_domain"
  | .domain _ .renew => "renew_domain"
  | .domain _ .delete => "delete_domain"
  | .domain _ (.transfer _ _) => "transfer_domain"
  | .domain _ .flush => "flush_domain"
  | .account _ _ (.register _ _ _) => "register_account"
  | .account _ _ .renew => "renew_account"
  | .account _ _ .delete => "delete_account"
  | .account _ _ (.transfer _ _) => "transfer_account"
  | .account _ _ (.addCertificate _) => "add_account_certificate"
  | .account _ _ (.deleteCertificate _) => "delete_account_certificate"
  | .account _ _ (.replaceTargets _) => "replace_account_targets"
  | .account _ _ (.replaceMetadata _) => "replace_account_metadata"

end Message

end NameRegistry
