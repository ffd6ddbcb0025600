import NameRegistry.Proofs.Delivery.Reachable
import NameRegistry.Proofs.Registry.Listing

namespace NameRegistry

/-- Whether the records of a store stand in their places and refer to records that are there. -/
structure Intact (store : Store) : Prop where
  domains {key value : Bytes} :
    (key, value) ∈ KeyValueStore.entriesUnder store Key.domains →
      ∃ domain, Domain.ofBytes value = .ok domain ∧ key = Key.domain domain.name ∧
        '*' ∉ domain.name.toList ∧ domain.admin ≠ Address.empty ∧
          ∃ root, Registry.account? store domain.name "" = .ok (some root) ∧
            root.domain = domain.name ∧ root.name = "" ∧ root.owner = domain.admin
  accounts {key value : Bytes} :
    (key, value) ∈ KeyValueStore.entriesUnder store Key.accounts →
      ∃ account, Account.ofBytes value = .ok account ∧
        key = Key.account account.domain account.name ∧ account.owner ≠ Address.empty ∧
          ∃ domain, Registry.domain? store account.domain = .ok (some domain) ∧
            domain.name = account.domain

theorem intact_of_consistent {store : Store} {records : Records} (h : Consistent store records) :
    Intact store where
  domains hentry := by
    obtain ⟨domain, hread, hkey, hfound⟩ := h.holds.domain_of_entry h.sound hentry
    obtain ⟨_, hvalid⟩ := h.sound.domains hfound
    obtain ⟨root, hroot, hadmin⟩ := h.linked.root hfound
    obtain ⟨hdomain, hname, _⟩ := h.sound.accounts hroot
    refine ⟨domain, hread, hkey.symm, notMem_of_plain hvalid.plain, hvalid.admin, root, ?_, hdomain,
      hname, hadmin⟩
    rw [h.holds.account?_eq h.sound hvalid.plain, hroot]
  accounts hentry := by
    obtain ⟨account, hread, hkey, hfound⟩ := h.holds.account_of_entry h.sound hentry
    obtain ⟨_, _, hvalid⟩ := h.sound.accounts hfound
    obtain ⟨domain, hdomain⟩ := h.linked.parent hfound
    refine ⟨account, hread, hkey.symm, hvalid.owner, domain, ?_, (h.sound.domains hdomain).1⟩
    rw [h.holds.domain?_eq h.sound, hdomain]

theorem Reachable.intact {store : Store} (h : Reachable store) : Intact store := by
  obtain ⟨records, hconsistent⟩ := h.consistent
  exact intact_of_consistent hconsistent

theorem intact_sample :
    Sample.store.size = 8 ∧ Reachable Sample.store ∧ Intact Sample.store :=
  ⟨by decide +kernel, Sample.reachable_store, Reachable.intact Sample.reachable_store⟩

end NameRegistry
