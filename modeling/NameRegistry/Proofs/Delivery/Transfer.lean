import NameRegistry.Proofs.Delivery.Reachable

namespace NameRegistry

open Registry

/-- What becomes of an account other than the root account when its domain passes from the
administrator `old` to `new`. -/
def TransferFlag.settle (old new : Address) (account : Account) : TransferFlag → Option Account
  | flush => none
  | owned => some (if account.owner = old then { account with owner := new } else account)
  | leave => some account

theorem Change.settled_eq_bind (old new : Address) (flag : TransferFlag) (found? : Option Account) :
    settled old new flag found? = found?.bind fun account => flag.settle old new account := by
  cases found? with
  | none => exact settled_none old new flag
  | some account => cases flag <;> rfl

/-- A transfer that goes through changes nothing but the administrator in the record of the domain
and hands a cleared root account over. The other accounts are all gone, or those of the old
administrator pass over, or all stay, as the flag says. -/
theorem Reachable.transferDomain_exact {store : Store} (h : Reachable store)
    (environment : Environment) (context : Context) (message : Message) {name : String}
    {newAdmin : Address} {flag : TransferFlag}
    (haction : message.action = .domain name (.transfer newAdmin flag))
    (hmessage : message.action.Fits)
    (haccepted : (environment.deliver context message store).result = .ok ()) :
    let after := (environment.deliver context message store).store
    ∃ domain root, domain? store name = .ok (some domain) ∧ domain.admin = message.signer ∧
      account? store name "" = .ok (some root) ∧
      domain? after name = .ok (some { domain with admin := newAdmin }) ∧
      account? after name "" = .ok (some { root with
        owner := newAdmin, targets := [], certificates := [], metadataUri := "" }) ∧
      ∀ accountName, accountName ≠ "" → ∃ found?, account? store name accountName = .ok found? ∧
        account? after name accountName =
          .ok (found?.bind fun account => flag.settle message.signer newAdmin account) := by
  intro after
  obtain ⟨records, hconsistent⟩ := h.consistent
  obtain ⟨change, hgranted, hafter⟩ :=
    Environment.granted_of_accepted hconsistent haccepted hmessage
  rw [haction] at hgranted
  cases hgranted with
  | @transferDomain _ domain _ _ _ hfound _ hadmin _ =>
      obtain ⟨rfl, hvalid⟩ := hconsistent.sound.domains hfound
      obtain ⟨root, hroot, _⟩ := hconsistent.linked.root hfound
      have hbefore := hconsistent.holds.account?_eq hconsistent.sound hvalid.plain
      have hlater := hafter.holds.account?_eq hafter.sound hvalid.plain
      refine ⟨domain, root, ?_, hadmin, ?_, ?_, ?_, ?_⟩
      · rw [hconsistent.holds.domain?_eq hconsistent.sound, hfound]
      · rw [hbefore, hroot]
      · rw [hafter.holds.domain?_eq hafter.sound]
        simp [Change.onRecords, transferred]
      · rw [hlater]
        simp [Change.onRecords, hroot, moved, cleared]
      · intro accountName hname
        refine ⟨records.account? domain.name accountName, hbefore accountName, ?_⟩
        rw [hlater, ← hadmin, ← Change.settled_eq_bind]
        simp [Change.onRecords, hname]

namespace Sample

/-- Alice registers an account of her domain for herself. -/
def registerVault : Message :=
  ⟨alice, none, .account "bank" "vault" (.register alice [⟨"iov", "xyz"⟩] none)⟩

/-- Alice hands her domain to Bob, with the accounts that are hers. -/
def handOverBank : Message := ⟨alice, none, .domain "bank" (.transfer bob .owned)⟩

/-- The store with an account of Bob and one of Alice in her domain. -/
def vaultStore : Store := deliverAll (block 100) [registerVault] store

theorem reachable_vaultStore : Reachable vaultStore :=
  reachable_deliverAll (block 100) reachable_store (by decide)

def vault : Account :=
  { Account.plain "bank" "vault" alice neverExpires with targets := [⟨"iov", "xyz"⟩] }

end Sample

/-- Alice's account passes to Bob with its target, and his own stays as it is. -/
theorem transferDomain_sample :
    let outcome := Sample.ledger.deliver (Sample.block 200) Sample.handOverBank Sample.vaultStore
    account? Sample.vaultStore "bank" "vault" = .ok (some Sample.vault) ∧
      account? Sample.vaultStore "bank" "teller" = .ok (some Sample.teller) ∧
      outcome.result = .ok () ∧
      account? outcome.store "bank" "vault" = .ok (some { Sample.vault with owner := Sample.bob }) ∧
      account? outcome.store "bank" "teller" = .ok (some Sample.teller) := by
  intro outcome
  have hvault : account? Sample.vaultStore "bank" "vault" = .ok (some Sample.vault) := by
    decide +kernel
  have hteller : account? Sample.vaultStore "bank" "teller" = .ok (some Sample.teller) := by
    decide +kernel
  have haccepted : outcome.result = .ok () := by decide +kernel
  obtain ⟨_, _, _, _, _, _, _, haccounts⟩ := Reachable.transferDomain_exact
    Sample.reachable_vaultStore Sample.ledger (Sample.block 200) Sample.handOverBank rfl
    (by decide) haccepted
  refine ⟨hvault, hteller, haccepted, ?_, ?_⟩
  · obtain ⟨_, hfound, hsettled⟩ := haccounts "vault" (by decide)
    obtain rfl := Except.ok.inj (hvault.symm.trans hfound)
    exact hsettled
  · obtain ⟨_, hfound, hsettled⟩ := haccounts "teller" (by decide)
    obtain rfl := Except.ok.inj (hteller.symm.trans hfound)
    exact hsettled

end NameRegistry
