import NameRegistry.Account
import NameRegistry.Domain
import NameRegistry.Json.Fields
/-!
The records of the registry in JSON.
-/
namespace NameRegistry

open Json

/-- An address as the list of its bytes. -/
def Address.toJson (address : Address) : Value := .ofByteList address.bytes

/-- The address of a list of twenty bytes. -/
def Address.ofJson? (value : Value) : Option Address := do
  (Address.ofBytes (← value.list? Value.byte?)).toOption

def Target.toJson (target : Target) : Value :=
  .record [("id", .ofText target.id), ("address", .ofText target.address)]

def Target.ofJson? (value : Value) : Option Target := do
  match ← value.fields? ["id", "address"] with
  | [id, address] => return ⟨← required Value.text? id, ← required Value.text? address⟩
  | _ => none

def DomainType.ofJson? (value : Value) : Option DomainType := do ofName? (← value.choice?)

def Domain.toJson (domain : Domain) : Value :=
  .record [("name", .ofText domain.name), ("admin", domain.admin.toJson),
    ("valid_until", .integer domain.validUntil.toInt),
    ("domain_type", .ofText domain.domainType.name),
    ("account_renew", .integer domain.accountRenewal.toInt),
    ("broker", .ofOption Address.toJson domain.broker)]

def Domain.ofJson? (value : Value) : Option Domain := do
  match ← value.fields?
      ["name", "admin", "valid_until", "domain_type", "account_renew", "broker"] with
  | [name, admin, validUntil, domainType, accountRenewal, broker] =>
    return {
      name := ← required Value.text? name
      admin := ← required Address.ofJson? admin
      validUntil := ← required Value.int64? validUntil
      domainType := ← required DomainType.ofJson? domainType
      accountRenewal := ← required Value.int64? accountRenewal
      broker := ← optional Address.ofJson? broker }
  | _ => none

def Account.toJson (account : Account) : Value :=
  .record [("domain", .ofText account.domain), ("name", .ofText account.name),
    ("owner", account.owner.toJson), ("valid_until", .integer account.validUntil.toInt),
    ("targets", .array (account.targets.map Target.toJson)),
    ("certificates", .array (account.certificates.map Value.ofByteList)),
    ("broker", .ofOption Address.toJson account.broker),
    ("metadata_uri", .ofText account.metadataUri)]

def Account.ofJson? (value : Value) : Option Account := do
  match ← value.fields?
      ["domain", "name", "owner", "valid_until", "targets", "certificates", "broker",
        "metadata_uri"] with
  | [domain, name, owner, validUntil, targets, certificates, broker, metadataUri] =>
    return {
      domain := ← required Value.text? domain
      name := ← required Value.text? name
      owner := ← required Address.ofJson? owner
      validUntil := ← required Value.int64? validUntil
      targets := ← required (Value.list? Target.ofJson?) targets
      certificates := ← required (Value.list? (Value.list? Value.byte?)) certificates
      broker := ← optional Address.ofJson? broker
      metadataUri := ← required Value.text? metadataUri }
  | _ => none

end NameRegistry
