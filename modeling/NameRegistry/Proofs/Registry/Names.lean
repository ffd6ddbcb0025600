import NameRegistry.Proofs.Registry.Records
import NameRegistry.Proofs.Store.Visit
import NameRegistry.Registry.Domains

namespace NameRegistry

theorem Layout.exists_slot {store : Store} {slots : Slot → Option Bytes} (h : Layout store slots)
    {key value : Bytes} (hget : store.get? key = some value) :
    ∃ slot : Slot, slot.Sound ∧ slot.key = key ∧ slots slot = some value := by
  apply Classical.byContradiction
  intro hnone
  have helsewhere : ∀ slot : Slot, slot.Sound → slot.key ≠ key := by
    intro slot hslot hkey
    subst hkey
    exact hnone ⟨slot, hslot, rfl, (h.at_slot slot hslot).symm.trans hget⟩
  rw [h.elsewhere helsewhere] at hget
  cases hget

theorem Slot.of_accountsIn {domain : String} {slot : Slot} (hplain : Plain domain)
    (hsound : slot.Sound) (hbegins : Key.accountsIn domain <+: slot.key) :
    ∃ name, slot = .accountRecord domain name := by
  obtain ⟨rest, hrest⟩ := hbegins
  cases slot with
  | accountRecord domain' name =>
      simp only [Key.accountsIn, Key.accounts, Slot.key, Key.object, List.append_assoc,
        List.cons_append, List.nil_append, List.cons.injEq, true_and] at hrest
      obtain ⟨hdomain, _⟩ := Key.append_separator_inj hplain hsound hrest
      exact ⟨name, by rw [Utf8.encode_injective hdomain]⟩
  | _ => simp [Key.accountsIn, Key.accounts, Slot.key] at hrest

namespace Registry

theorem accountNames_eq_map (store : Store) (domain : String) :
    accountNames store domain =
      (store.entries.filter fun entry => (Key.accountsIn domain).isPrefixOf entry.1).map
        fun entry => Utf8.decodeLossy (entry.1.drop (Key.accountsIn domain).length) := by
  have hvisit : visitAccountsIn store domain
      (fun name seen => .yield (Utf8.decodeLossy name :: seen)) [] = _ :=
    OrderedMap.visit_yield store (Key.accountsIn domain)
      (fun key _ seen => Utf8.decodeLossy (key.drop (Key.accountsIn domain).length) :: seen) []
  rw [accountNames, hvisit, List.foldl_flip_cons_eq_append, List.append_nil, List.reverse_reverse]

theorem drop_account (domain name : String) :
    (Key.account domain name).drop (Key.accountsIn domain).length = Utf8.encode name := by
  rw [Key.account, List.drop_left]

end Registry

theorem Holds.mem_accountNames {store : Store} {records : Records} (h : Holds store records)
    {domain : String} (hplain : Plain domain) (name : String) :
    name ∈ Registry.accountNames store domain ↔ (records.account? domain name).isSome := by
  have hget (name : String) : store.get? (Key.account domain name) =
      (records.account? domain name).map Account.toBytes := by
    rw [Key.account_eq_cons]
    exact h.at_slot (.accountRecord domain name) hplain
  rw [Registry.accountNames_eq_map, List.mem_map]
  constructor
  · rintro ⟨⟨key, value⟩, hmem, hname⟩
    obtain ⟨hentry, hbegins⟩ := List.mem_filter.mp hmem
    obtain ⟨slot, hsound, hkey, hvalue⟩ := h.exists_slot (OrderedMap.get?_eq_some_iff.mpr hentry)
    subst hkey
    obtain ⟨name', rfl⟩ := Slot.of_accountsIn hplain hsound (List.isPrefixOf_iff_prefix.mp hbegins)
    have hdrop : Utf8.decodeLossy
        ((Key.account domain name').drop (Key.accountsIn domain).length) = name := by
      rw [Key.account_eq_cons]
      exact hname
    rw [Registry.drop_account, Utf8.decodeLossy_encode] at hdrop
    subst hdrop
    rw [← Option.isSome_map (f := Account.toBytes)]
    exact Option.isSome_of_mem hvalue
  · intro hsome
    obtain ⟨account, haccount⟩ := Option.isSome_iff_exists.mp hsome
    refine ⟨(Key.account domain name, account.toBytes), ?_, ?_⟩
    · refine List.mem_filter.mpr ⟨OrderedMap.get?_eq_some_iff.mp ?_, ?_⟩
      · rw [hget, haccount]
        rfl
      · exact List.isPrefixOf_iff_prefix.mpr (List.prefix_append _ _)
    · rw [Registry.drop_account, Utf8.decodeLossy_encode]

end NameRegistry
