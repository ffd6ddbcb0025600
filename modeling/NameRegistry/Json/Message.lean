import NameRegistry.Json.Records
import NameRegistry.Message
/-!
Messages in JSON: an object whose one member has the action as its key and the message's fields as
its value.
-/
namespace NameRegistry

open Json

def TransferFlag.ofJson? (value : Value) : Option TransferFlag := do ofName? (← value.choice?)

namespace Message

/-- The key of a message and its fields, but for the payer of the fee. -/
def keyAndFields (message : Message) : String × List (String × Value) :=
  let signer := message.signer.toJson
  match message.action with
  | .domain name (.register domainType broker) =>
    ("RegisterDomain", [("name", .ofText name), ("admin", signer),
      ("domain_type", .ofText domainType.name), ("broker", .ofOption Address.toJson broker)])
  | .domain name .renew => ("RenewDomain", [("domain", .ofText name), ("signer", signer)])
  | .domain name .delete => ("DeleteDomain", [("domain", .ofText name), ("owner", signer)])
  | .domain name (.transfer newAdmin flag) =>
    ("TransferDomain", [("domain", .ofText name), ("owner", signer),
      ("new_admin", newAdmin.toJson), ("transfer_flag", .ofText flag.name)])
  | .domain name .flush => ("FlushDomain", [("domain", .ofText name), ("owner", signer)])
  | .account domain name action =>
    let names := [("domain", .ofText domain), ("name", .ofText name)]
    match action with
    | .register owner targets broker =>
      ("RegisterAccount", names ++ [("owner", owner.toJson), ("registerer", signer),
        ("targets", .array (targets.map Target.toJson)),
        ("broker", .ofOption Address.toJson broker)])
    | .renew => ("RenewAccount", names ++ [("signer", signer)])
    | .delete => ("DeleteAccount", names ++ [("owner", signer)])
    | .transfer newOwner reset =>
      ("TransferAccount", names ++ [("owner", signer), ("new_owner", newOwner.toJson),
        ("reset", .bool reset)])
    | .addCertificate certificate =>
      ("AddAccountCertificate",
        names ++ [("owner", signer), ("new_certificate", .ofByteList certificate)])
    | .deleteCertificate certificate =>
      ("DeleteAccountCertificate",
        names ++ [("owner", signer), ("delete_certificate", .ofByteList certificate)])
    | .replaceTargets targets =>
      ("ReplaceAccountTargets",
        names ++ [("owner", signer), ("new_targets", .array (targets.map Target.toJson))])
    | .replaceMetadata uri =>
      ("ReplaceAccountMetadata",
        names ++ [("owner", signer), ("new_metadata_uri", .ofText uri)])

def toJson (message : Message) : Value :=
  let (key, fields) := message.keyAndFields
  .record [(key,
    .record (fields ++ [("fee_payer", .ofOption Address.toJson message.feePayer)]))]

/-- A message on a domain from its fields: the domain, the signer, what the action says beside
them, and the payer of the fee. -/
def ofDomainFields (name signer payer : Option Value) (action : Option DomainAction) :
    Option Message :=
  return ⟨← required Address.ofJson? signer, ← optional Address.ofJson? payer,
    .domain (← required Value.text? name) (← action)⟩

def ofAccountFields (domain name signer payer : Option Value) (action : Option AccountAction) :
    Option Message :=
  return ⟨← required Address.ofJson? signer, ← optional Address.ofJson? payer,
    .account (← required Value.text? domain) (← required Value.text? name) (← action)⟩

/-- The message on a domain with the given key. -/
def domainMessage? (key : String) (value : Value) : Option Message := do
  match key with
  | "RegisterDomain" =>
    match ← value.fields? ["name", "admin", "domain_type", "broker", "fee_payer"] with
    | [name, admin, domainType, broker, payer] =>
      ofDomainFields name admin payer <|
        return .register (← required DomainType.ofJson? domainType)
          (← optional Address.ofJson? broker)
    | _ => none
  | "RenewDomain" =>
    match ← value.fields? ["domain", "signer", "fee_payer"] with
    | [domain, signer, payer] => ofDomainFields domain signer payer (some .renew)
    | _ => none
  | "DeleteDomain" =>
    match ← value.fields? ["domain", "owner", "fee_payer"] with
    | [domain, owner, payer] => ofDomainFields domain owner payer (some .delete)
    | _ => none
  | "TransferDomain" =>
    match ← value.fields? ["domain", "owner", "new_admin", "transfer_flag", "fee_payer"] with
    | [domain, owner, newAdmin, flag, payer] =>
      ofDomainFields domain owner payer <|
        return .transfer (← required Address.ofJson? newAdmin)
          (← required TransferFlag.ofJson? flag)
    | _ => none
  | "FlushDomain" =>
    match ← value.fields? ["domain", "owner", "fee_payer"] with
    | [domain, owner, payer] => ofDomainFields domain owner payer (some .flush)
    | _ => none
  | _ => none

def accountMessage? (key : String) (value : Value) : Option Message := do
  match key with
  | "RegisterAccount" =>
    match ← value.fields?
        ["domain", "name", "owner", "registerer", "targets", "broker", "fee_payer"] with
    | [domain, name, owner, registerer, targets, broker, payer] =>
      ofAccountFields domain name registerer payer <|
        return .register (← required Address.ofJson? owner)
          (← required (Value.list? Target.ofJson?) targets) (← optional Address.ofJson? broker)
    | _ => none
  | "RenewAccount" =>
    match ← value.fields? ["domain", "name", "signer", "fee_payer"] with
    | [domain, name, signer, payer] => ofAccountFields domain name signer payer (some .renew)
    | _ => none
  | "DeleteAccount" =>
    match ← value.fields? ["domain", "name", "owner", "fee_payer"] with
    | [domain, name, owner, payer] => ofAccountFields domain name owner payer (some .delete)
    | _ => none
  | "TransferAccount" =>
    match ← value.fields? ["domain", "name", "owner", "new_owner", "reset", "fee_payer"] with
    | [domain, name, owner, newOwner, reset, payer] =>
      ofAccountFields domain name owner payer <|
        return .transfer (← required Address.ofJson? newOwner) (← required Value.bool? reset)
    | _ => none
  | "AddAccountCertificate" =>
    match ← value.fields? ["domain", "name", "owner", "new_certificate", "fee_payer"] with
    | [domain, name, owner, certificate, payer] =>
      ofAccountFields domain name owner payer <|
        return .addCertificate (← required (Value.list? Value.byte?) certificate)
    | _ => none
  | "DeleteAccountCertificate" =>
    match ← value.fields? ["domain", "name", "owner", "delete_certificate", "fee_payer"] with
    | [domain, name, owner, certificate, payer] =>
      ofAccountFields domain name owner payer <|
        return .deleteCertificate (← required (Value.list? Value.byte?) certificate)
    | _ => none
  | "ReplaceAccountTargets" =>
    match ← value.fields? ["domain", "name", "owner", "new_targets", "fee_payer"] with
    | [domain, name, owner, targets, payer] =>
      ofAccountFields domain name owner payer <|
        return .replaceTargets (← required (Value.list? Target.ofJson?) targets)
    | _ => none
  | "ReplaceAccountMetadata" =>
    match ← value.fields? ["domain", "name", "owner", "new_metadata_uri", "fee_payer"] with
    | [domain, name, owner, uri, payer] =>
      ofAccountFields domain name owner payer <|
        return .replaceMetadata (← required Value.text? uri)
    | _ => none
  | _ => none

def ofJson? (value : Value) : Option Message := do
  let (key, fields) ← value.variant?
  (domainMessage? key fields).or (accountMessage? key fields)

end Message

end NameRegistry
