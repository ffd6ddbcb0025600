import NameRegistry.Account
import NameRegistry.Binary.Basic
import NameRegistry.Domain
/-!
The records of the registry as the store holds them. What stands behind a record is passed over.
-/
namespace NameRegistry

open Binary

/-- What is reported of bytes that hold no record. -/
def corrupted : Error := ⟨.serialization, "corrupted record"⟩

def DomainType.tag : DomainType → Nat
  | opened => 0
  | closed => 1

def DomainType.reader : Reader DomainType := do
  match ← Reader.number 4 with
  | 0 => return opened
  | 1 => return closed
  | _ => Reader.fail

def Target.toBytes (target : Target) : Bytes :=
  Binary.text target.id ++ Binary.text target.address

def Target.reader : Reader Target := return ⟨← Reader.text, ← Reader.text⟩

namespace Domain

def toBytes (domain : Domain) : Bytes :=
  Binary.text domain.name ++ domain.admin.bytes ++ int64 domain.validUntil ++
    number 4 domain.domainType.tag ++ int64 domain.accountRenewal ++
    option Address.bytes domain.broker

def reader : Reader Domain := do
  return {
    name := ← Reader.text
    admin := ← Reader.address
    validUntil := ← Reader.int64
    domainType := ← DomainType.reader
    accountRenewal := ← Reader.int64
    broker := ← Reader.option Reader.address }

/-- The domain whose record the bytes hold. -/
def ofBytes (bytes : Bytes) : Except Error Domain :=
  match reader bytes with
  | some (domain, _) => .ok domain
  | none => .error corrupted

end Domain

namespace Account

def toBytes (account : Account) : Bytes :=
  Binary.text account.domain ++ Binary.text account.name ++ account.owner.bytes ++
    int64 account.validUntil ++ list Target.toBytes account.targets ++
    list block account.certificates ++ option Address.bytes account.broker ++
    Binary.text account.metadataUri

def reader : Reader Account := do
  return {
    domain := ← Reader.text
    name := ← Reader.text
    owner := ← Reader.address
    validUntil := ← Reader.int64
    targets := ← Reader.list Target.reader
    certificates := ← Reader.list Reader.block
    broker := ← Reader.option Reader.address
    metadataUri := ← Reader.text }

/-- The account whose record the bytes hold. -/
def ofBytes (bytes : Bytes) : Except Error Account :=
  match reader bytes with
  | some (account, _) => .ok account
  | none => .error corrupted

end Account

end NameRegistry
