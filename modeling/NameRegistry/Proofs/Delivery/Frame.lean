import NameRegistry.Proofs.Delivery.Locality
import NameRegistry.Proofs.Registry.Cascade

namespace NameRegistry

theorem Records.AgreeAt.slots_eq {slot : Slot} {records records' : Records}
    (h : AgreeAt slot.domainName records records') : records.slots slot = records'.slots slot := by
  obtain ⟨hdomain, haccount⟩ := h
  cases slot <;> grind [Slot.domainName]

theorem Records.slots_setAccount {records : Records} {domainName name : String}
    {found : Option Account} {slot : Slot}
    (h : slot.domainName = domainName → slot.accountName? ≠ some name) :
    (records.setAccount domainName name found).slots slot = records.slots slot := by
  cases slot <;> grind [Slot.domainName, Slot.accountName?]

/-- The entries that a delivery adds, changes or removes are of the domain that its message is
about, and of the account if it is about one. -/
theorem Reachable.deliver_frame {store : Store} (h : Reachable store) (environment : Environment)
    (context : Context) (message : Message) (hmessage : message.action.Fits)
    (hplain : '*' ∉ message.action.domainName.toList) {key : Bytes}
    (hkey : (environment.deliver context message store).store.get? key ≠ store.get? key) :
    Key.OfDomain message.action.domainName key ∧
      ∀ domainName name action, message.action = .account domainName name action →
        Key.OfAccount domainName name key := by
  obtain ⟨records, hconsistent⟩ := h.consistent
  replace hplain := plain_of_notMem hplain
  rcases Environment.deliver_cases hconsistent hmessage environment context with
    ⟨change, hgranted, hafter⟩ | ⟨_, hsame⟩
  · obtain ⟨slot, hslot, rfl, hne⟩ :=
      Layout.exists_slot_of_ne hconsistent.holds hafter.holds hkey
    have hdomain : slot.domainName = message.action.domainName := by
      by_contra hother
      have hwithin := hgranted.within hconsistent.sound hplain
      exact hne (change.agreeAt_of_ne hwithin hother records).slots_eq
    refine ⟨hdomain ▸ Slot.ofDomain hslot, ?_⟩
    intro domainName name action haction
    rw [haction] at hgranted hdomain hplain
    change slot.domainName = domainName at hdomain
    obtain ⟨found, hrecords⟩ := hgranted.onRecords_account hconsistent.sound hplain
    have hname : slot.accountName? = some name := by
      by_contra hother
      rw [hrecords, Records.slots_setAccount fun _ => hother] at hne
      exact hne rfl
    exact hdomain ▸ Slot.ofAccount hslot hname
  · rw [hsame] at hkey
    exact absurd rfl hkey

/-- When Bob takes the certificate from his account, the entry under which the account was found by
it goes, which is one of the account. -/
theorem frame_sample_certificate :
    let message : Message := ⟨Sample.bob, none, .account "bank" "teller"
      (.deleteCertificate [1, 2, 3])⟩
    let after := (Sample.ledger.deliver (Sample.block 200) message Sample.neighbours).store
    let key := (Slot.accountByCertificate [1, 2, 3] "bank" "teller").key
    Sample.neighbours.get? key = some [] ∧ after.get? key = none ∧ after.size = 11 ∧
      Key.OfDomain "bank" key ∧ Key.OfAccount "bank" "teller" key := by
  intro message after key
  have hbefore : Sample.neighbours.get? key = some [] := by decide +kernel
  have hafter : after.get? key = none := by decide +kernel
  have hkey : after.get? key ≠ Sample.neighbours.get? key := by
    rw [hbefore, hafter]
    exact nofun
  obtain ⟨hdomain, haccount⟩ := Reachable.deliver_frame Sample.reachable_neighbours Sample.ledger
    (Sample.block 200) message (by decide) (by decide) hkey
  exact ⟨hbefore, hafter, by decide +kernel, hdomain, haccount "bank" "teller" _ rfl⟩

end NameRegistry
