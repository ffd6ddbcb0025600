import NameRegistry.Json.Records
import NameRegistry.Proofs.Json.Fields

namespace NameRegistry

open Json

namespace Address

@[simp] theorem ofBytes_bytes (address : Address) : ofBytes address.bytes = .ok address :=
  dif_pos address.length_eq

@[simp] theorem ofJson?_toJson (address : Address) : ofJson? address.toJson = some address := by
  rw [ofJson?, toJson, Value.list?_ofByteList, Option.bind_eq_bind, Option.bind_some,
    ofBytes_bytes]
  rfl

@[simp] theorem optional_ofOption (address? : Option Address) :
    optional ofJson? (some (Value.ofOption toJson address?)) = some address? :=
  Value.option?_ofOption ofJson?_toJson (fun _ hnull => nomatch hnull) address?

end Address

@[simp] theorem Target.ofJson?_toJson (target : Target) :
    ofJson? target.toJson = some target := by
  have hfields : target.toJson.fields? ["id", "address"] =
      some [some (.ofText target.id), some (.ofText target.address)] :=
    Value.fields?_record (by decide) rfl
  simp [ofJson?, hfields, required]

@[simp] theorem DomainType.ofJson?_ofText (domainType : DomainType) :
    ofJson? (.ofText domainType.name) = some domainType := by
  rw [ofJson?, Value.ofText, Value.choice?, text?_pieces]
  cases domainType <;> decide

@[simp] theorem Domain.ofJson?_toJson (domain : Domain) :
    ofJson? domain.toJson = some domain := by
  have hfields : domain.toJson.fields?
      ["name", "admin", "valid_until", "domain_type", "account_renew", "broker"] =
      some [some (.ofText domain.name), some domain.admin.toJson,
        some (.integer domain.validUntil.toInt), some (.ofText domain.domainType.name),
        some (.integer domain.accountRenewal.toInt),
        some (.ofOption Address.toJson domain.broker)] :=
    Value.fields?_record (by decide) rfl
  simp [ofJson?, hfields, required]

@[simp] theorem Account.ofJson?_toJson (account : Account) :
    ofJson? account.toJson = some account := by
  have hfields : account.toJson.fields?
      ["domain", "name", "owner", "valid_until", "targets", "certificates", "broker",
        "metadata_uri"] =
      some [some (.ofText account.domain), some (.ofText account.name),
        some account.owner.toJson, some (.integer account.validUntil.toInt),
        some (.array (account.targets.map Target.toJson)),
        some (.array (account.certificates.map Value.ofByteList)),
        some (.ofOption Address.toJson account.broker), some (.ofText account.metadataUri)] :=
    Value.fields?_record (by decide) rfl
  simp [ofJson?, hfields, required, Value.list?_map Target.ofJson?_toJson,
    Value.list?_map Value.list?_ofByteList]

end NameRegistry
