import NameRegistry.Proofs.Binary.Records
import NameRegistry.Proofs.Store.Layout
/-!
What the registry holds, as records alone. A store holds records if the records stand under their
keys, every index entry that they ask for is there, and there is nothing else. What is read from
such a store are the records.
-/
namespace NameRegistry

theorem Packed.Packable.lt_lengthBound {component : Bytes} (h : Packed.Packable component) :
    component.length < Binary.lengthBound :=
  Nat.lt_of_le_of_lt h.2 (by decide)

theorem Target.Packable.fits {target : Target} (h : target.Packable) : target.Fits :=
  ⟨h.1.lt_lengthBound, h.2.lt_lengthBound⟩

/-- The domains by their names and the accounts by their domains and names. -/
@[ext]
structure Records where
  domain? : String → Option Domain
  account? : String → String → Option Account

/-- The value of an index entry, if it is there. -/
@[grind =]
def marker (present : Bool) : Option Bytes := if present then some [] else none

/-- Whether a domain is one that the registry may hold. -/
structure Domain.Valid (domain : Domain) : Prop where
  plain : Plain domain.name
  fits : TextFits domain.name
  admin : domain.admin ≠ Address.empty
  validUntil : -8334601228800 ≤ domain.validUntil.toInt

/-- Whether an account is one that the registry may hold. -/
structure Account.Valid (account : Account) : Prop where
  plain : Plain account.domain
  fits : account.Fits
  owner : account.owner ≠ Address.empty
  targets : ∀ target ∈ account.targets, target.Packable
  ids : (account.targets.map Target.id).Nodup
  certificates : ∀ certificate ∈ account.certificates, Packed.Packable certificate
  distinct : account.certificates.Nodup

/-- Whether an account can be written with its index entries. -/
structure Account.Indexable (account : Account) : Prop where
  plain : Plain account.domain
  owner : account.owner ≠ Address.empty
  targets : ∀ target ∈ account.targets, target.Packable
  certificates : ∀ certificate ∈ account.certificates, Packed.Packable certificate

theorem Account.Valid.indexable {account : Account} (h : account.Valid) : account.Indexable :=
  ⟨h.plain, h.owner, h.targets, h.certificates⟩

namespace Records

/-- No records at all. -/
def empty : Records := ⟨fun _ => none, fun _ _ => none⟩

/-- The records with another domain, or none, under a name. -/
def setDomain (records : Records) (name : String) (found : Option Domain) : Records :=
  { records with domain? := fun name' => if name' = name then found else records.domain? name' }

/-- The records with another account, or none, under its names. -/
def setAccount (records : Records) (domain name : String) (found : Option Account) : Records :=
  { records with
    account? := fun domain' name' =>
      if domain' = domain ∧ name' = name then found else records.account? domain' name' }

/-- The records with the accounts of a domain changed, each by its name. -/
def changeAccounts (records : Records) (domain : String)
    (change : String → Option Account → Option Account) : Records :=
  { records with
    account? := fun domain' name =>
      if domain' = domain then change name (records.account? domain' name)
      else records.account? domain' name }

@[simp, grind =] theorem domain?_setDomain (records : Records) (name : String)
    (found : Option Domain) (name' : String) :
    (records.setDomain name found).domain? name' =
      if name' = name then found else records.domain? name' := rfl

@[simp, grind =] theorem account?_setDomain (records : Records) (name : String)
    (found : Option Domain) (domain' name' : String) :
    (records.setDomain name found).account? domain' name' = records.account? domain' name' := rfl

@[simp, grind =] theorem domain?_setAccount (records : Records) (domain name : String)
    (found : Option Account) (name' : String) :
    (records.setAccount domain name found).domain? name' = records.domain? name' := rfl

@[simp, grind =] theorem account?_setAccount (records : Records) (domain name : String)
    (found : Option Account) (domain' name' : String) :
    (records.setAccount domain name found).account? domain' name' =
      if domain' = domain ∧ name' = name then found else records.account? domain' name' := rfl

@[simp, grind =] theorem domain?_changeAccounts (records : Records) (domain : String)
    (change : String → Option Account → Option Account) (name : String) :
    (records.changeAccounts domain change).domain? name = records.domain? name := rfl

@[simp, grind =] theorem account?_changeAccounts (records : Records) (domain : String)
    (change : String → Option Account → Option Account) (domain' name : String) :
    (records.changeAccounts domain change).account? domain' name =
      if domain' = domain then change name (records.account? domain' name)
      else records.account? domain' name := rfl

theorem setAccount_setAccount (records : Records) (domainName name : String)
    (found? found?' : Option Account) :
    (records.setAccount domainName name found?).setAccount domainName name found?' =
      records.setAccount domainName name found?' := by
  ext <;> grind

theorem setAccount_self (records : Records) (domainName name : String) :
    records.setAccount domainName name (records.account? domainName name) = records := by
  ext <;> grind

/-- What the records ask to stand in the slots of the store. -/
@[grind =]
def slots (records : Records) : Slot → Option Bytes
  | .domainRecord name => (records.domain? name).map Domain.toBytes
  | .accountRecord domain name => (records.account? domain name).map Account.toBytes
  | .domainByOwner owner name => marker ((records.domain? name).any fun domain =>
      domain.admin = owner)
  | .accountByOwner owner domain name => marker ((records.account? domain name).any fun account =>
      account.owner = owner)
  | .accountByTarget target domain name => marker ((records.account? domain name).any fun account =>
      target ∈ account.targets)
  | .accountByCertificate certificate domain name =>
      marker ((records.account? domain name).any fun account =>
        certificate ∈ account.certificates)

/-- Whether every record stands under its own name and may be held. -/
structure Sound (records : Records) : Prop where
  domains {name : String} {domain : Domain} :
    records.domain? name = some domain → domain.name = name ∧ domain.Valid
  accounts {domain name : String} {account : Account} :
    records.account? domain name = some account →
      account.domain = domain ∧ account.name = name ∧ account.Valid

namespace Sound

variable {records : Records}

theorem empty : Records.empty.Sound where
  domains h := by cases h
  accounts h := by cases h

theorem setDomain (h : records.Sound) {name : String} {found : Option Domain}
    (hfound : ∀ domain ∈ found, domain.name = name ∧ domain.Valid) :
    (records.setDomain name found).Sound where
  domains {name' domain} hdomain := by
    rw [domain?_setDomain] at hdomain
    split at hdomain
    · subst name'
      exact hfound domain hdomain
    · exact h.domains hdomain
  accounts haccount := h.accounts haccount

theorem setAccount (h : records.Sound) {domain name : String} {found : Option Account}
    (hfound : ∀ account ∈ found,
      account.domain = domain ∧ account.name = name ∧ account.Valid) :
    (records.setAccount domain name found).Sound where
  domains hdomain := h.domains hdomain
  accounts {domain' name' account} haccount := by
    rw [account?_setAccount] at haccount
    split at haccount
    · rename_i hnames
      obtain ⟨rfl, rfl⟩ := hnames
      exact hfound account haccount
    · exact h.accounts haccount

theorem changeAccounts (h : records.Sound) {domain : String}
    {change : String → Option Account → Option Account}
    (hchange : ∀ name, ∀ account ∈ change name (records.account? domain name),
      account.domain = domain ∧ account.name = name ∧ account.Valid) :
    (records.changeAccounts domain change).Sound where
  domains hdomain := h.domains hdomain
  accounts {domain' name account} haccount := by
    rw [account?_changeAccounts] at haccount
    split at haccount
    · subst domain'
      exact hchange name account haccount
    · exact h.accounts haccount

end Sound

/-- Whether every domain has a root account, which its administrator owns, and every account has
its domain. -/
structure Linked (records : Records) : Prop where
  root {name : String} {domain : Domain} :
    records.domain? name = some domain →
      ∃ root, records.account? name "" = some root ∧ root.owner = domain.admin
  parent {domain name : String} {account : Account} :
    records.account? domain name = some account → ∃ parent, records.domain? domain = some parent

end Records

/-- Whether a store holds exactly the given records and the index entries that they ask for. -/
def Holds (store : Store) (records : Records) : Prop := Layout store records.slots

theorem holds_empty : Holds ∅ Records.empty where
  at_slot slot _ := by cases slot <;> rfl
  elsewhere _ := rfl

namespace Holds

open Registry

variable {store : Store} {records : Records}

theorem domain?_eq (h : Holds store records) (hsound : records.Sound) (name : String) :
    domain? store name = .ok (records.domain? name) := by
  have hget : KeyValueStore.get? store (Key.domain name) =
      (records.domain? name).map Domain.toBytes :=
    h.at_slot (.domainRecord name) trivial
  rw [domain?, hget]
  cases hfound : records.domain? name with
  | none => rfl
  | some domain =>
      obtain ⟨_, hvalid⟩ := hsound.domains hfound
      simp only [Option.map_some]
      rw [Domain.ofBytes_toBytes hvalid.fits]
      rfl

theorem get?_account (h : Holds store records) {domain : String} (hplain : Plain domain)
    (name : String) :
    KeyValueStore.get? store (Key.account domain name) =
      (records.account? domain name).map Account.toBytes := by
  rw [Key.account_eq_cons]
  exact h.at_slot (.accountRecord domain name) hplain

theorem account?_of_fits (h : Holds store records) {account : Account}
    (hplain : Plain account.domain) (hfits : account.Fits)
    (hfound : records.account? account.domain account.name = some account) :
    account? store account.domain account.name = .ok (some account) := by
  rw [account?, h.get?_account hplain, hfound]
  simp only [Option.map_some]
  rw [Account.ofBytes_toBytes hfits]
  rfl

theorem account?_eq (h : Holds store records) (hsound : records.Sound) {domain : String}
    (hplain : Plain domain) (name : String) :
    account? store domain name = .ok (records.account? domain name) := by
  cases hfound : records.account? domain name with
  | none =>
      rw [account?, h.get?_account hplain, hfound]
      rfl
  | some account =>
      obtain ⟨rfl, rfl, hvalid⟩ := hsound.accounts hfound
      exact h.account?_of_fits hplain hvalid.fits hfound

theorem account?_of_object (h : Holds store records) (hsound : records.Sound)
    {domain name domain' name' : String} (hplain : Plain domain')
    (hobject : Key.object domain' name' = Key.object domain name) :
    account? store domain name = .ok (records.account? domain' name') := by
  have hkey : Key.account domain name = Key.account domain' name' := by
    rw [Key.account_eq_cons, Key.account_eq_cons, hobject]
  rw [← h.account?_eq hsound hplain name', account?, account?, hkey]

end Holds

end NameRegistry
