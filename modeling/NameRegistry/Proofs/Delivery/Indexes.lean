import NameRegistry.Proofs.Delivery.Reachable
import NameRegistry.Proofs.Registry.Listing

namespace NameRegistry

/-- What the keys of all index entries begin with. -/
def Key.indexes : Bytes := [2]

/-- The key of the index entry of a domain, under its administrator. -/
def Domain.indexKey (domain : Domain) : Bytes :=
  Key.index Index.domainsByOwner.tag ++ domain.admin.bytes ++ Utf8.encode domain.name

/-- The keys of the index entries of an account: under its owner, under each of its targets and
under each of its certificates. -/
def Account.indexKeys (account : Account) : Except Error (List Bytes) := do
  let object := Key.object account.domain account.name
  let byTarget ← account.targets.mapM fun target =>
    return Key.index Index.accountsByTarget.tag ++
      (← Packed.pack [Utf8.encode target.id, Utf8.encode target.address]) ++ object
  let byCertificate ← account.certificates.mapM fun certificate =>
    return Key.index Index.accountsByCertificate.tag ++ (← Packed.pack [certificate]) ++ object
  return (Key.index Index.accountsByOwner.tag ++ account.owner.bytes ++ object) ::
    (byTarget ++ byCertificate)

/-- The index entries that all records of a store ask for. -/
def derivedEntries (store : Store) : Except Error (List (Bytes × Bytes)) := do
  let domains ← Registry.allDomains store
  let accounts ← Registry.allAccounts store
  let accountKeys ← accounts.mapM Account.indexKeys
  return (domains.map Domain.indexKey ++ accountKeys.flatten).map fun key => (key, [])

namespace Account

/-- The slots of an account's index entries. -/
def indexSlots (account : Account) : List Slot :=
  account.ownerSlot ::
    (account.targets.map account.targetSlot ++ account.certificates.map account.certificateSlot)

theorem indexKeys_eq {account : Account} (h : account.Valid) :
    account.indexKeys = .ok (account.indexSlots.map Slot.key) := by
  have hbyTarget : (account.targets.mapM fun target => do
      return Key.index Index.accountsByTarget.tag ++
        (← Packed.pack [Utf8.encode target.id, Utf8.encode target.address]) ++
          Key.object account.domain account.name) =
      .ok (account.targets.map fun target => (account.targetSlot target).key) := by
    apply mapM_eq_ok_map
    intro target htarget
    rw [Packed.pack_eq_ok_iff.mpr ⟨(h.targets target htarget).components, rfl⟩]
    exact congrArg Except.ok (List.append_assoc _ _ _)
  have hbyCertificate : (account.certificates.mapM fun certificate => do
      return Key.index Index.accountsByCertificate.tag ++ (← Packed.pack [certificate]) ++
        Key.object account.domain account.name) =
      .ok (account.certificates.map fun certificate =>
        (account.certificateSlot certificate).key) := by
    apply mapM_eq_ok_map
    intro certificate hcertificate
    have hpackable := List.forall_mem_singleton.mpr (h.certificates certificate hcertificate)
    rw [Packed.pack_eq_ok_iff.mpr ⟨hpackable, rfl⟩]
    exact congrArg Except.ok (List.append_assoc _ _ _)
  have howner : Key.index Index.accountsByOwner.tag ++ account.owner.bytes ++
      Key.object account.domain account.name = account.ownerSlot.key := List.append_assoc _ _ _
  rw [indexKeys, hbyTarget, hbyCertificate, howner, indexSlots, List.map_cons, List.map_append,
    List.map_map, List.map_map]
  rfl

/-- The names of the account that a slot belongs to, if it belongs to one. -/
def holder? : Slot → Option (String × String)
  | .domainRecord _ | .domainByOwner _ _ => none
  | .accountRecord domain name | .accountByOwner _ domain name
  | .accountByTarget _ domain name | .accountByCertificate _ domain name => some (domain, name)

theorem holder?_of_mem {account : Account} {slot : Slot} (h : slot ∈ account.indexSlots) :
    holder? slot = some (account.domain, account.name) := by
  rcases List.mem_cons.mp h with rfl | h
  · rfl
  · rcases List.mem_append.mp h with h | h
    · obtain ⟨target, _, rfl⟩ := List.mem_map.mp h
      rfl
    · obtain ⟨certificate, _, rfl⟩ := List.mem_map.mp h
      rfl

theorem sound_of_mem {account : Account} (hvalid : account.Valid) {slot : Slot}
    (h : slot ∈ account.indexSlots) : slot.Sound := by
  rcases List.mem_cons.mp h with rfl | h
  · exact hvalid.plain
  · rcases List.mem_append.mp h with h | h
    · obtain ⟨target, htarget, rfl⟩ := List.mem_map.mp h
      exact ⟨hvalid.targets target htarget, hvalid.plain⟩
    · obtain ⟨certificate, hcertificate, rfl⟩ := List.mem_map.mp h
      exact ⟨hvalid.certificates certificate hcertificate, hvalid.plain⟩

theorem nodup_indexSlots {account : Account} (h : account.Valid) :
    account.indexSlots.Nodup := by
  have htargets : (account.targets.map account.targetSlot).Nodup :=
    (List.Nodup.of_map Target.id h.ids).map fun target target' heq => by
      injection heq
  have hcertificates : (account.certificates.map account.certificateSlot).Nodup :=
    h.distinct.map fun certificate certificate' heq => by
      injection heq
  refine List.nodup_cons.mpr ⟨?_, List.nodup_append.mpr ⟨htargets, hcertificates, ?_⟩⟩
  · simp [Account.ownerSlot, Account.targetSlot, Account.certificateSlot]
  · simp [Account.targetSlot, Account.certificateSlot]

end Account

/-- The slots of the index entries of domains and accounts. -/
def indexSlots (domains : List Domain) (accounts : List Account) : List Slot :=
  domains.map Domain.ownerSlot ++ accounts.flatMap Account.indexSlots

section Slots

variable {store : Store} {records : Records} {domains : List Domain} {accounts : List Account}

theorem nodup_indexSlots (hsound : records.Sound) (hdomains : domains.Nodup)
    (haccounts : accounts.Nodup)
    (hfound : ∀ account ∈ accounts,
      records.account? account.domain account.name = some account)
    (hfound' : ∀ domain ∈ domains, records.domain? domain.name = some domain) :
    (indexSlots domains accounts).Nodup := by
  refine List.nodup_append.mpr ⟨?_, List.nodup_flatMap.mpr ⟨?_, ?_⟩, ?_⟩
  · refine hdomains.map_on fun domain hdomain domain' hdomain' heq => ?_
    injection heq with _ hname
    have hsame := hfound' domain' hdomain'
    rw [← hname, hfound' domain hdomain] at hsame
    exact Option.some.inj hsame
  · exact fun account haccount =>
      Account.nodup_indexSlots (hsound.accounts (hfound account haccount)).2.2
  -- A slot names its account, so that different accounts share none.
  · apply haccounts.imp_of_mem
    intro account account' haccount haccount' hne slot hslot hslot'
    have hholder := (Account.holder?_of_mem hslot).symm.trans (Account.holder?_of_mem hslot')
    obtain ⟨hdomain, hname⟩ := Prod.mk.inj (Option.some.inj hholder)
    have hsame := hfound account' haccount'
    rw [← hdomain, ← hname, hfound account haccount] at hsame
    exact hne (Option.some.inj hsame)
  · intro slot hslot slot' hslot' heq
    subst heq
    obtain ⟨domain, _, rfl⟩ := List.mem_map.mp hslot
    obtain ⟨account, _, hslot'⟩ := List.mem_flatMap.mp hslot'
    cases Account.holder?_of_mem hslot'

theorem eq_nil_of_slots {slot : Slot} {value : Bytes} (hbegins : Key.indexes <+: slot.key)
    (hvalue : records.slots slot = some value) : value = [] := by
  have hmarker {present : Bool} (h : marker present = some value) : value = [] := by
    cases present with
    | false => cases h
    | true => exact (Option.some.inj h).symm
  cases slot with
  | domainRecord name => simp [Key.indexes, Slot.key] at hbegins
  | accountRecord domain name => simp [Key.indexes, Slot.key] at hbegins
  | _ => exact hmarker hvalue

theorem mem_indexSlots
    (hdomains : ∀ domain, domain ∈ domains ↔ records.domain? domain.name = some domain)
    (haccounts : ∀ account, account ∈ accounts ↔
      records.account? account.domain account.name = some account) (hsound : records.Sound)
    (slot : Slot) :
    slot ∈ indexSlots domains accounts ↔
      Key.indexes <+: slot.key ∧ records.slots slot = some [] := by
  have hmarker {present : Bool} : marker present = some [] ↔ present = true := by
    cases present <;> simp [marker]
  have hmem {account : Account}
      (hfound : records.account? account.domain account.name = some account)
      {slot : Slot} (hslot : slot ∈ account.indexSlots) : slot ∈ indexSlots domains accounts :=
    List.mem_append_right _
      (List.mem_flatMap.mpr ⟨account, (haccounts account).mpr hfound, hslot⟩)
  constructor
  · intro hslot
    rcases List.mem_append.mp hslot with hslot | hslot
    · obtain ⟨domain, hdomain, rfl⟩ := List.mem_map.mp hslot
      refine ⟨List.prefix_append [2] _, ?_⟩
      simp [Domain.ownerSlot, Records.slots, (hdomains domain).mp hdomain, marker]
    · obtain ⟨account, haccount, hslot⟩ := List.mem_flatMap.mp hslot
      have hfound := (haccounts account).mp haccount
      rcases List.mem_cons.mp hslot with rfl | hslot
      · refine ⟨List.prefix_append [2] _, ?_⟩
        simp [Account.ownerSlot, Records.slots, hfound, marker]
      rcases List.mem_append.mp hslot with hslot | hslot
      · obtain ⟨target, htarget, rfl⟩ := List.mem_map.mp hslot
        refine ⟨List.prefix_append [2] _, ?_⟩
        simp [Account.targetSlot, Records.slots, hfound, marker, htarget]
      · obtain ⟨certificate, hcertificate, rfl⟩ := List.mem_map.mp hslot
        refine ⟨List.prefix_append [2] _, ?_⟩
        simp [Account.certificateSlot, Records.slots, hfound, marker, hcertificate]
  · rintro ⟨hbegins, hvalue⟩
    cases slot with
    | domainRecord name => simp [Key.indexes, Slot.key] at hbegins
    | accountRecord domain name => simp [Key.indexes, Slot.key] at hbegins
    | domainByOwner owner name =>
        obtain ⟨domain, hfound, hadmin⟩ := (Option.any_eq_true _ _).mp (hmarker.mp hvalue)
        obtain ⟨rfl, _⟩ := hsound.domains hfound
        obtain rfl := of_decide_eq_true hadmin
        exact List.mem_append_left _ (List.mem_map_of_mem ((hdomains domain).mpr hfound))
    | accountByOwner owner domain name =>
        obtain ⟨account, hfound, howner⟩ := (Option.any_eq_true _ _).mp (hmarker.mp hvalue)
        obtain ⟨rfl, rfl, _⟩ := hsound.accounts hfound
        obtain rfl := of_decide_eq_true howner
        exact hmem hfound List.mem_cons_self
    | accountByTarget target domain name =>
        obtain ⟨account, hfound, htarget⟩ := (Option.any_eq_true _ _).mp (hmarker.mp hvalue)
        obtain ⟨rfl, rfl, _⟩ := hsound.accounts hfound
        exact hmem hfound (List.mem_cons_of_mem _ (List.mem_append_left _
          (List.mem_map_of_mem (of_decide_eq_true htarget))))
    | accountByCertificate certificate domain name =>
        obtain ⟨account, hfound, hcertificate⟩ := (Option.any_eq_true _ _).mp (hmarker.mp hvalue)
        obtain ⟨rfl, rfl, _⟩ := hsound.accounts hfound
        exact hmem hfound (List.mem_cons_of_mem _ (List.mem_append_right _
          (List.mem_map_of_mem (of_decide_eq_true hcertificate))))

end Slots

/-- In every store that deliveries lead to, the records can all be read, the index entries are the
ones that the records ask for, each once and with an empty value, and beside records and index
entries there is nothing. -/
theorem Reachable.indexes_exact {store : Store} (h : Reachable store) :
    ∃ derived, derivedEntries store = .ok derived ∧
      (KeyValueStore.entriesUnder store Key.indexes).Perm derived ∧
        ∀ entry ∈ store.entries,
          Key.domains <+: entry.1 ∨ Key.accounts <+: entry.1 ∨ Key.indexes <+: entry.1 := by
  obtain ⟨records, hholds, hsound, _⟩ := h.consistent
  obtain ⟨domains, hreadDomains, hnodupDomains, hdomains⟩ := hholds.allDomains_eq hsound
  obtain ⟨accounts, hreadAccounts, hnodupAccounts, haccounts⟩ := hholds.allAccounts_eq hsound
  have hkeys : accounts.mapM Account.indexKeys =
      .ok (accounts.map fun account => account.indexSlots.map Slot.key) := by
    apply mapM_eq_ok_map
    intro account haccount
    exact Account.indexKeys_eq (hsound.accounts ((haccounts account).mp haccount)).2.2
  have hslots := nodup_indexSlots hsound hnodupDomains hnodupAccounts
    (fun account => (haccounts account).mp) (fun domain => (hdomains domain).mp)
  have hkey (slot : Slot) (hslot : slot ∈ indexSlots domains accounts) : slot.Sound := by
    rcases List.mem_append.mp hslot with hslot | hslot
    · obtain ⟨domain, _, rfl⟩ := List.mem_map.mp hslot
      trivial
    · obtain ⟨account, haccount, hslot⟩ := List.mem_flatMap.mp hslot
      exact Account.sound_of_mem (hsound.accounts ((haccounts account).mp haccount)).2.2 hslot
  refine ⟨(indexSlots domains accounts).map fun slot => (slot.key, []), ?_, ?_, ?_⟩
  · have hderived : derivedEntries store = .ok
        ((domains.map Domain.indexKey ++
          (accounts.map fun account => account.indexSlots.map Slot.key).flatten).map
            fun key => (key, [])) := by
      rw [derivedEntries, hreadDomains, hreadAccounts]
      change (accounts.mapM Account.indexKeys >>= _) = _
      rw [hkeys]
      rfl
    have hdomainKeys :
        domains.map Domain.indexKey = (domains.map Domain.ownerSlot).map Slot.key := by
      rw [List.map_map]
      exact List.map_congr_left fun domain _ => List.append_assoc _ _ _
    have haccountKeys : (accounts.map fun account => account.indexSlots.map Slot.key).flatten =
        (accounts.flatMap Account.indexSlots).map Slot.key := by
      rw [List.map_flatMap, List.flatMap_def]
    rw [hderived, hdomainKeys, haccountKeys, ← List.map_append, List.map_map]
    rfl
  · refine (List.perm_ext_iff_of_nodup ?_ ?_).mpr ?_
    · exact List.Nodup.of_map Prod.fst (KeyValueStore.nodup_entriesUnder store _)
    · refine hslots.map_on fun slot hslot slot' hslot' heq => ?_
      exact Slot.key_inj (hkey slot hslot) (hkey slot' hslot') (Prod.mk.inj heq).1
    · rintro ⟨key, value⟩
      rw [KeyValueStore.mem_entriesUnder, List.mem_map]
      constructor
      · rintro ⟨hbegins, hget⟩
        obtain ⟨slot, _, rfl, hvalue⟩ := hholds.exists_slot hget
        obtain rfl := eq_nil_of_slots hbegins hvalue
        have hslot := (mem_indexSlots hdomains haccounts hsound slot).mpr ⟨hbegins, hvalue⟩
        exact ⟨slot, hslot, rfl⟩
      · rintro ⟨slot, hslot, heq⟩
        obtain ⟨rfl, rfl⟩ := Prod.mk.inj heq
        obtain ⟨hbegins, hvalue⟩ := (mem_indexSlots hdomains haccounts hsound slot).mp hslot
        refine ⟨hbegins, ?_⟩
        rw [← hvalue]
        exact hholds.at_slot slot (hkey slot hslot)
  · rintro ⟨key, value⟩ hentry
    obtain ⟨slot, _, rfl, _⟩ := hholds.exists_slot (OrderedMap.get?_eq_some_iff.mpr hentry)
    cases slot with
    | domainRecord name => exact Or.inl (List.prefix_append [0] _)
    | accountRecord domain name => exact Or.inr (Or.inl (List.prefix_append [1] _))
    | _ => exact Or.inr (Or.inr (List.prefix_append [2] _))

theorem indexes_of_sample :
    (KeyValueStore.entriesUnder Sample.store Key.indexes).length = 5 ∧
      ∃ derived, derivedEntries Sample.store = .ok derived ∧
        (KeyValueStore.entriesUnder Sample.store Key.indexes).Perm derived ∧
          ∀ entry ∈ Sample.store.entries,
            Key.domains <+: entry.1 ∨ Key.accounts <+: entry.1 ∨ Key.indexes <+: entry.1 :=
  ⟨by decide +kernel, Reachable.indexes_exact Sample.reachable_store⟩

end NameRegistry
