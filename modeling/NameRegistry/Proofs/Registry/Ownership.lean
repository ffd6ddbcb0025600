import NameRegistry.Proofs.Key.Slot

namespace NameRegistry

open Registry

/-- Whether a key is of an account: that of its record, or that of an index entry whose object is
the account. -/
inductive Key.OfAccount (domainName name : String) : Bytes → Prop
  | record : OfAccount domainName name (Key.account domainName name)
  | byOwner (owner : Address) :
      OfAccount domainName name ((accountsOf owner).key (Key.object domainName name))
  | byTarget {target : Target} {scope : Scope} :
      accountsAt target = .ok scope →
        OfAccount domainName name (scope.key (Key.object domainName name))
  | byCertificate {certificate : Bytes} {scope : Scope} :
      accountsWith certificate = .ok scope →
        OfAccount domainName name (scope.key (Key.object domainName name))

/-- Whether a key is of a domain: that of its record, that of an index entry whose object is the
domain, or one of an account of it. -/
inductive Key.OfDomain (name : String) : Bytes → Prop
  | record : OfDomain name (Key.domain name)
  | byOwner (owner : Address) : OfDomain name ((domainsOf owner).key (Utf8.encode name))
  | account {accountName : String} {key : Bytes} :
      OfAccount name accountName key → OfDomain name key

namespace Slot

/-- The name of the domain that a slot is of. -/
def domainName : Slot → String
  | .domainRecord name | .domainByOwner _ name => name
  | .accountRecord domain _ | .accountByOwner _ domain _
  | .accountByTarget _ domain _ | .accountByCertificate _ domain _ => domain

/-- The name of the account that a slot is of, if it is not of the domain itself. -/
def accountName? : Slot → Option String
  | .domainRecord _ | .domainByOwner _ _ => none
  | .accountRecord _ name | .accountByOwner _ _ name
  | .accountByTarget _ _ name | .accountByCertificate _ _ name => some name

theorem ofAccount {slot : Slot} (hslot : slot.Sound) {name : String}
    (hname : slot.accountName? = some name) : Key.OfAccount slot.domainName name slot.key := by
  cases slot with
  | domainRecord name => cases hname
  | domainByOwner owner name => cases hname
  | accountRecord domain name =>
      obtain rfl := Option.some.inj hname
      rw [key, ← Key.account_eq_cons]
      exact .record
  | accountByOwner owner domain name =>
      obtain rfl := Option.some.inj hname
      rw [← key_accountsOf]
      exact .byOwner owner
  | accountByTarget target domain name =>
      obtain rfl := Option.some.inj hname
      obtain ⟨scope, hscope, hkey⟩ := accountsAt_of_packable hslot.1
      rw [← hkey]
      exact .byTarget hscope
  | accountByCertificate certificate domain name =>
      obtain rfl := Option.some.inj hname
      obtain ⟨scope, hscope, hkey⟩ := accountsWith_of_packable hslot.1
      rw [← hkey]
      exact .byCertificate hscope

theorem ofDomain {slot : Slot} (hslot : slot.Sound) : Key.OfDomain slot.domainName slot.key := by
  cases slot with
  | domainRecord name => exact .record
  | domainByOwner owner name =>
      rw [← key_domainsOf]
      exact .byOwner owner
  | _ => exact .account (ofAccount hslot rfl)

end Slot

end NameRegistry
