import NameRegistry.Proofs.Failure
import NameRegistry.Proofs.Registry.Accounts

namespace NameRegistry

namespace Registry

theorem visitRecords_collect {ρ : Type} (store : Store) (stem : Bytes)
    (read : Bytes → Except Error ρ) :
    visitRecords store stem read (fun record seen => .yield (record :: seen)) [] =
      ((KeyValueStore.entriesUnder store stem).mapM fun entry => read entry.2).map
        List.reverse := by
  rw [visitRecords, KeyValueStore.entriesUnder_eq_filter]
  change OrderedMap.visit store stem _ _ = _
  rw [OrderedMap.visit_eq_filter]
  generalize (store.entries.filter fun entry => stem.isPrefixOf entry.1) = entries
  suffices hvisit : ∀ seen : List ρ, OrderedMap.visitWhile [] _ (.ok seen) entries =
      (entries.mapM fun entry => read entry.2).map fun records => records.reverse ++ seen by
    rw [hvisit []]
    simp only [List.append_nil]
  induction entries with
  | nil => exact fun _ => rfl
  | cons entry rest ih =>
      intro seen
      rw [List.mapM_cons, OrderedMap.visitWhile, if_pos (by simp)]
      cases hread : read entry.2 with
      | error error => rfl
      | ok record =>
          have hrest := ih (record :: seen)
          dsimp only
          rw [hrest]
          cases rest.mapM fun entry => read entry.2 with
          | error error => rfl
          | ok others =>
              have hreverse :
                  others.reverse ++ record :: seen = (record :: others).reverse ++ seen := by
                rw [List.reverse_cons, List.append_assoc, List.singleton_append]
              exact congrArg Except.ok hreverse

/-- All accounts, in order of their keys. -/
def allAccounts (store : Store) : Except Error (List Account) :=
  (visitAccounts store (fun account seen => .yield (account :: seen)) []).map List.reverse

theorem allDomains_eq_mapM (store : Store) :
    allDomains store =
      (KeyValueStore.entriesUnder store Key.domains).mapM fun entry => Domain.ofBytes entry.2 := by
  rw [allDomains, visitDomains, visitRecords_collect]
  cases (KeyValueStore.entriesUnder store Key.domains).mapM fun entry => Domain.ofBytes entry.2 with
  | error _ => rfl
  | ok domains => exact congrArg _ (List.reverse_reverse domains)

theorem allAccounts_eq_mapM (store : Store) :
    allAccounts store =
      (KeyValueStore.entriesUnder store Key.accounts).mapM
        fun entry => Account.ofBytes entry.2 := by
  rw [allAccounts, visitAccounts, visitRecords_collect]
  cases (KeyValueStore.entriesUnder store Key.accounts).mapM
      fun entry => Account.ofBytes entry.2 with
  | error _ => rfl
  | ok accounts => exact congrArg _ (List.reverse_reverse accounts)

end Registry

namespace Holds

variable {store : Store} {records : Records}

theorem domain_of_entry (h : Holds store records) (hsound : records.Sound) {key value : Bytes}
    (hentry : (key, value) ∈ KeyValueStore.entriesUnder store Key.domains) :
    ∃ domain, Domain.ofBytes value = .ok domain ∧ Key.domain domain.name = key ∧
      records.domain? domain.name = some domain := by
  obtain ⟨hbegins, hget⟩ := KeyValueStore.mem_entriesUnder.mp hentry
  obtain ⟨slot, _, rfl, hvalue⟩ := h.exists_slot hget
  cases slot with
  | domainRecord name =>
      obtain ⟨domain, hfound, rfl⟩ := Option.map_eq_some_iff.mp hvalue
      obtain ⟨rfl, hvalid⟩ := hsound.domains hfound
      exact ⟨domain, Domain.ofBytes_toBytes hvalid.fits, rfl, hfound⟩
  | _ => simp [Key.domains, Slot.key] at hbegins

theorem account_of_entry (h : Holds store records) (hsound : records.Sound) {key value : Bytes}
    (hentry : (key, value) ∈ KeyValueStore.entriesUnder store Key.accounts) :
    ∃ account, Account.ofBytes value = .ok account ∧
      Key.account account.domain account.name = key ∧
        records.account? account.domain account.name = some account := by
  obtain ⟨hbegins, hget⟩ := KeyValueStore.mem_entriesUnder.mp hentry
  obtain ⟨slot, _, rfl, hvalue⟩ := h.exists_slot hget
  cases slot with
  | accountRecord domain name =>
      obtain ⟨account, hfound, rfl⟩ := Option.map_eq_some_iff.mp hvalue
      obtain ⟨rfl, rfl, hvalid⟩ := hsound.accounts hfound
      exact ⟨account, Account.ofBytes_toBytes hvalid.fits, Key.account_eq_cons _ _, hfound⟩
  | _ => simp [Key.accounts, Slot.key] at hbegins

theorem allDomains_eq (h : Holds store records) (hsound : records.Sound) :
    ∃ domains, Registry.allDomains store = .ok domains ∧ domains.Nodup ∧
      ∀ domain, domain ∈ domains ↔ records.domain? domain.name = some domain := by
  obtain ⟨domains, hread, hkeys, hfound⟩ :=
    exists_mapM_eq_ok fun entry hentry => h.domain_of_entry hsound hentry
  rw [← Registry.allDomains_eq_mapM] at hread
  refine ⟨domains, hread, ?_, fun domain => ⟨hfound domain, fun hdomain => ?_⟩⟩
  · refine List.Nodup.of_map (fun domain => Key.domain domain.name) ?_
    rw [hkeys]
    exact KeyValueStore.nodup_entriesUnder store Key.domains
  · have hget : store.get? (Key.domain domain.name) = some domain.toBytes := by
      have hslot := h.at_slot (.domainRecord domain.name) trivial
      simp only [Records.slots, hdomain] at hslot
      exact hslot
    have hentry : (Key.domain domain.name, domain.toBytes) ∈
        KeyValueStore.entriesUnder store Key.domains :=
      KeyValueStore.mem_entriesUnder.mpr ⟨List.prefix_append _ _, hget⟩
    have hkey := List.mem_map_of_mem (f := Prod.fst) hentry
    rw [← hkeys] at hkey
    obtain ⟨domain', hmem, hname⟩ := List.mem_map.mp hkey
    have hsame := hfound domain' hmem
    rw [Key.domain_inj hname, hdomain] at hsame
    obtain rfl := Option.some.inj hsame
    exact hmem

theorem allAccounts_eq (h : Holds store records) (hsound : records.Sound) :
    ∃ accounts, Registry.allAccounts store = .ok accounts ∧ accounts.Nodup ∧
      ∀ account, account ∈ accounts ↔
        records.account? account.domain account.name = some account := by
  obtain ⟨accounts, hread, hkeys, hfound⟩ :=
    exists_mapM_eq_ok fun entry hentry => h.account_of_entry hsound hentry
  rw [← Registry.allAccounts_eq_mapM] at hread
  refine ⟨accounts, hread, ?_, fun account => ⟨hfound account, fun haccount => ?_⟩⟩
  · refine List.Nodup.of_map (fun account => Key.account account.domain account.name) ?_
    rw [hkeys]
    exact KeyValueStore.nodup_entriesUnder store Key.accounts
  · have hplain := (hsound.accounts haccount).2.2.plain
    have hget : store.get? (Key.account account.domain account.name) = some account.toBytes := by
      have hslot := h.at_slot account.recordSlot hplain
      simp only [Account.recordSlot, Records.slots, haccount] at hslot
      rw [Key.account_eq_cons]
      exact hslot
    have hentry : (Key.account account.domain account.name, account.toBytes) ∈
        KeyValueStore.entriesUnder store Key.accounts := by
      refine KeyValueStore.mem_entriesUnder.mpr ⟨?_, hget⟩
      rw [Key.account_eq_cons]
      exact List.prefix_append [1] _
    have hkey := List.mem_map_of_mem (f := Prod.fst) hentry
    rw [← hkeys] at hkey
    obtain ⟨account', hmem, hnames⟩ := List.mem_map.mp hkey
    have hsame := hfound account' hmem
    obtain ⟨hdomain, hname⟩ :=
      Key.account_inj (hsound.accounts hsame).2.2.plain hplain hnames
    rw [hdomain, hname, haccount] at hsame
    obtain rfl := Option.some.inj hsame
    exact hmem

end Holds

end NameRegistry
