import NameRegistry.Proofs.Delivery.Reachable
import NameRegistry.Proofs.Registry.Ownership
import NameRegistry.Proofs.Registry.Scopes
/-!
What goes with a domain. `Domain.Owns` tells the keys that belong to a domain: of its record, of
its accounts, and of the index entries of them all. Deleting the domain takes away the entries
under these keys and no others (`Reachable.deleteDomain_exact`); what belongs to another domain
stays, also if the name of one begins with that of the other.
-/
namespace NameRegistry

open Registry

/-- Whether a key belongs to a domain: it is that of its record, that of its entry under its
administrator, that of the record of one of its accounts, or that of an index entry whose object is
one of its accounts. -/
inductive Domain.Owns (domain : Domain) : Bytes → Prop
  | record : domain.Owns (Key.domain domain.name)
  | byAdmin : domain.Owns ((domainsOf domain.admin).key (Utf8.encode domain.name))
  | account (name : String) : domain.Owns (Key.account domain.name name)
  | accountByOwner (owner : Address) (name : String) :
      domain.Owns ((accountsOf owner).key (Key.object domain.name name))
  | accountByTarget {target : Target} {scope : Scope} (name : String) :
      accountsAt target = .ok scope → domain.Owns (scope.key (Key.object domain.name name))
  | accountByCertificate {certificate : Bytes} {scope : Scope} (name : String) :
      accountsWith certificate = .ok scope → domain.Owns (scope.key (Key.object domain.name name))

namespace Domain

variable {domain : Domain}

theorem Owns.exists_slot {key : Bytes} (h : domain.Owns key) (hplain : Plain domain.name) :
    ∃ slot : Slot, slot.Sound ∧ slot.key = key ∧ slot.domainName = domain.name := by
  cases h with
  | record => exact ⟨.domainRecord domain.name, trivial, rfl, rfl⟩
  | byAdmin =>
      exact ⟨.domainByOwner domain.admin domain.name, trivial, (key_domainsOf _ _).symm, rfl⟩
  | account name =>
      exact ⟨.accountRecord domain.name name, hplain, (Key.account_eq_cons _ _).symm, rfl⟩
  | accountByOwner owner name =>
      exact ⟨.accountByOwner owner domain.name name, hplain, (key_accountsOf _ _ _).symm, rfl⟩
  | accountByTarget name htarget =>
      rename_i target scope
      have hpackable := (accountsAt_eq_ok_iff.mp htarget).1
      exact ⟨.accountByTarget target domain.name name, ⟨hpackable, hplain⟩,
        (key_of_accountsAt htarget _ _).symm, rfl⟩
  | accountByCertificate name hcertificate =>
      rename_i certificate scope
      have hpackable := (accountsWith_eq_ok_iff.mp hcertificate).1
      exact ⟨.accountByCertificate certificate domain.name name, ⟨hpackable, hplain⟩,
        (key_of_accountsWith hcertificate _ _).symm, rfl⟩

theorem owns_of_account {name : String} {key : Bytes} (h : Key.OfAccount domain.name name key) :
    domain.Owns key := by
  cases h with
  | record => exact .account name
  | byOwner owner => exact .accountByOwner owner name
  | byTarget hscope => exact .accountByTarget name hscope
  | byCertificate hscope => exact .accountByCertificate name hscope

theorem owns_of_slot {records : Records} (hfound : records.domain? domain.name = some domain)
    {slot : Slot} (hslot : slot.Sound) {value : Bytes} (hvalue : records.slots slot = some value)
    (hdomain : slot.domainName = domain.name) : domain.Owns slot.key := by
  cases slot with
  | domainRecord name =>
      obtain rfl : name = domain.name := hdomain
      exact .record
  | domainByOwner owner name =>
      obtain rfl : name = domain.name := hdomain
      have howner : domain.admin = owner := by
        by_contra hne
        simp [Records.slots, hfound, marker, hne] at hvalue
      rw [← howner, ← key_domainsOf]
      exact .byAdmin
  | _ => exact owns_of_account (hdomain ▸ Slot.ofAccount hslot rfl)

theorem owns_key_iff {records : Records} (hplain : Plain domain.name)
    (hfound : records.domain? domain.name = some domain) {slot : Slot} (hslot : slot.Sound)
    {value : Bytes} (hvalue : records.slots slot = some value) :
    domain.Owns slot.key ↔ slot.domainName = domain.name := by
  constructor
  · intro howns
    obtain ⟨slot', hslot', hkey, hdomain⟩ := howns.exists_slot hplain
    rw [← Slot.key_inj hslot' hslot hkey]
    exact hdomain
  · exact owns_of_slot hfound hslot hvalue

end Domain

theorem Records.slots_without (records : Records) (name : String) (slot : Slot) :
    ((records.changeAccounts name fun _ _ => none).setDomain name none).slots slot =
      if slot.domainName = name then none else records.slots slot := by
  cases slot <;> grind [Slot.domainName]

/-- Deleting a domain takes the entries away whose keys belong to it, and leaves all others as they
are; among these is everything that belongs to another domain. -/
theorem Reachable.deleteDomain_exact {store : Store} (h : Reachable store) {name : String}
    {domain : Domain} (hfound : domain? store name = .ok (some domain)) :
    ∃ after, deleteDomain name store = .ok true after ∧
      (∀ entry, entry ∈ after.entries ↔ entry ∈ store.entries ∧ ¬ domain.Owns entry.1) ∧
      ∀ other, domain? store other.name = .ok (some other) → other.name ≠ name →
        ∀ entry ∈ store.entries, other.Owns entry.1 → entry ∈ after.entries := by
  obtain ⟨records, hholds, hsound, _⟩ := h.consistent
  rw [hholds.domain?_eq hsound] at hfound
  replace hfound := Except.ok.inj hfound
  obtain ⟨after, hdelete, hafter⟩ := reaches_deleteDomain hholds hsound hfound
  obtain ⟨rfl, hvalid⟩ := hsound.domains hfound
  have hexact (entry : Bytes × Bytes) :
      entry ∈ after.entries ↔ entry ∈ store.entries ∧ ¬ domain.Owns entry.1 := by
    obtain ⟨key, value⟩ := entry
    rw [hafter.mem_entries_iff, Layout.mem_entries_iff hholds]
    constructor
    · rintro ⟨slot, hslot, rfl, hvalue⟩
      rw [Records.slots_without] at hvalue
      split at hvalue
      · cases hvalue
      · rename_i hdomain
        refine ⟨⟨slot, hslot, rfl, hvalue⟩, ?_⟩
        rwa [Domain.owns_key_iff hvalid.plain hfound hslot hvalue]
    · rintro ⟨⟨slot, hslot, rfl, hvalue⟩, howns⟩
      rw [Domain.owns_key_iff hvalid.plain hfound hslot hvalue] at howns
      refine ⟨slot, hslot, rfl, ?_⟩
      rw [Records.slots_without, if_neg howns, hvalue]
  refine ⟨after, hdelete, hexact, ?_⟩
  rintro other hother hname ⟨key, value⟩ hentry howns
  rw [hholds.domain?_eq hsound] at hother
  replace hother := Except.ok.inj hother
  have hplain := (hsound.domains hother).2.plain
  obtain ⟨slot, hslot, rfl, hvalue⟩ := (Layout.mem_entries_iff hholds).mp hentry
  refine (hexact _).mpr ⟨hentry, fun howns' => hname ?_⟩
  -- A slot is of one domain only.
  rw [Domain.owns_key_iff hplain hother hslot hvalue] at howns
  rw [Domain.owns_key_iff hvalid.plain hfound hslot hvalue] at howns'
  exact howns.symm.trans howns'

namespace Sample

/-- Bob registers a domain whose name begins with that of Alice's. -/
def registerBanker : Message := ⟨bob, none, .domain "banker" (.register .opened none)⟩

/-- The store with the domains of both. -/
def neighbours : Store := deliverAll (block 100) [registerBanker] store

theorem reachable_neighbours : Reachable neighbours :=
  reachable_deliverAll (block 100) reachable_store (by decide)

/-- The store that an update leaves. -/
def leaves {α : Type} : EStateM.Result Failure Store α → Store
  | .ok _ after | .error _ after => after

/-- What is left when Alice's domain has been deleted. -/
def left : Store := leaves (deleteDomain "bank" neighbours)

def bank : Domain := ⟨"bank", alice, 1100, .closed, 500, none⟩

def banker : Domain := ⟨"banker", bob, 1100, .opened, 500, none⟩

end Sample

/-- Alice's domain takes its account and their index entries along, and Bob's keeps all four of its
entries. -/
theorem deleteDomain_sample :
    Sample.neighbours.size = 12 ∧ Sample.left.size = 4 ∧
      deleteDomain "bank" Sample.neighbours = .ok true Sample.left ∧
      (∀ entry, entry ∈ Sample.left.entries ↔
        entry ∈ Sample.neighbours.entries ∧ ¬ Sample.bank.Owns entry.1) ∧
      ∀ entry ∈ Sample.neighbours.entries, Sample.banker.Owns entry.1 →
        entry ∈ Sample.left.entries := by
  have hbank : domain? Sample.neighbours "bank" = .ok (some Sample.bank) := by decide +kernel
  have hbanker : domain? Sample.neighbours Sample.banker.name = .ok (some Sample.banker) := by
    decide +kernel
  obtain ⟨after, hdelete, hexact, hothers⟩ :=
    Reachable.deleteDomain_exact Sample.reachable_neighbours hbank
  have hleft : Sample.left = after := congrArg Sample.leaves hdelete
  have hcount : Sample.left.size = 4 := by decide +kernel
  have hother : Sample.banker.name ≠ "bank" := by decide
  have hkeeps := hothers Sample.banker hbanker hother
  subst hleft
  exact ⟨by decide +kernel, hcount, hdelete, hexact, hkeeps⟩

end NameRegistry
