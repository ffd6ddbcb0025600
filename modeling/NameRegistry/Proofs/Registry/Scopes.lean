import NameRegistry.Proofs.Registry.Names

namespace NameRegistry

/-- The entries of a store are what stands in the slots. -/
theorem Layout.mem_entries_iff {store : Store} {slots : Slot → Option Bytes}
    (h : Layout store slots) {key value : Bytes} :
    (key, value) ∈ store.entries ↔ ∃ slot : Slot, slot.Sound ∧ slot.key = key ∧
      slots slot = some value := by
  rw [← OrderedMap.get?_eq_some_iff]
  constructor
  · exact h.exists_slot
  · rintro ⟨slot, hslot, rfl, hvalue⟩
    rw [h.at_slot slot hslot, hvalue]

theorem marker_eq_some {present : Bool} {value : Bytes} (h : marker present = some value) :
    present = true := by
  cases present with
  | true => rfl
  | false => cases h

theorem append_lt_append_left (stem : Bytes) {first second : Bytes} :
    stem ++ first < stem ++ second ↔ first < second := by
  induction stem with
  | nil => rfl
  | cons byte stem ih => simp [ih]

namespace KeyValueStore

/-- What follows a stem in the keys that begin with it, in order. -/
def restsUnder (store : Store) (stem : Bytes) : List Bytes :=
  (entriesUnder store stem).map fun entry => entry.1.drop stem.length

theorem mem_restsUnder {store : Store} {stem rest : Bytes} :
    rest ∈ restsUnder store stem ↔ ∃ value, (stem ++ rest, value) ∈ store.entries := by
  rw [restsUnder, List.mem_map]
  constructor
  · rintro ⟨⟨key, value⟩, hentry, rfl⟩
    obtain ⟨⟨rest, rfl⟩, hget⟩ := mem_entriesUnder.mp hentry
    rw [List.drop_left]
    exact ⟨value, OrderedMap.get?_eq_some_iff.mp hget⟩
  · rintro ⟨value, hentry⟩
    refine ⟨(stem ++ rest, value), mem_entriesUnder.mpr ⟨List.prefix_append _ _, ?_⟩, ?_⟩
    · exact OrderedMap.get?_eq_some_iff.mpr hentry
    · exact List.drop_left

theorem pairwise_restsUnder (store : Store) (stem : Bytes) :
    (restsUnder store stem).Pairwise (· < ·) := by
  rw [restsUnder, entriesUnder_eq_filter]
  refine List.pairwise_map.mpr ((store.ascending.filter _).imp_of_mem ?_)
  rintro ⟨key, value⟩ ⟨key', value'⟩ hmem hmem' hlt
  obtain ⟨rest, rfl⟩ := List.isPrefixOf_iff_prefix.mp (List.mem_filter.mp hmem).2
  obtain ⟨rest', rfl⟩ := List.isPrefixOf_iff_prefix.mp (List.mem_filter.mp hmem').2
  rw [List.drop_left, List.drop_left]
  exact (append_lt_append_left stem).mp hlt

end KeyValueStore

open KeyValueStore

theorem Scope.objects_eq (scope : Scope) (store : Store) :
    scope.objects store = restsUnder store scope.stem := by
  have hvisit : scope.visit store (fun object seen => .yield (object :: seen)) [] = _ :=
    OrderedMap.visit_yield store scope.stem
      (fun key _ seen => key.drop scope.stem.length :: seen) []
  rw [objects, hvisit, List.foldl_flip_cons_eq_append, List.append_nil, List.reverse_reverse,
    restsUnder, entriesUnder_eq_filter]

theorem Registry.accountNames_eq_rests (store : Store) (domain : String) :
    accountNames store domain =
      (restsUnder store (Key.accountsIn domain)).map Utf8.decodeLossy := by
  rw [accountNames_eq_map, restsUnder, entriesUnder_eq_filter, List.map_map]
  rfl

namespace Scope

/-- Whether the objects of a scope are, on every store that holds records, the accounts among them
that carry its subject. -/
def Indexes (scope : Scope) (carries : Account → Bool) : Prop :=
  ∀ {store : Store} {records : Records}, Holds store records → records.Sound →
    ∀ object, object ∈ scope.objects store ↔ ∃ account : Account,
      records.account? account.domain account.name = some account ∧ carries account = true ∧
        account.object = object

theorem indexes_of_slots {scope : Scope} {carries : Account → Bool}
    {slotOf : String → String → Slot}
    (hkey : ∀ domain name, scope.key (Key.object domain name) = (slotOf domain name).key)
    (hsound : ∀ domain name, Plain domain → (slotOf domain name).Sound)
    (honly : ∀ {slot : Slot} {rest : Bytes}, slot.Sound → slot.key = scope.key rest →
      ∃ domain name, slot = slotOf domain name ∧ Plain domain)
    (hslots : ∀ (records : Records) domain name, records.slots (slotOf domain name) =
      marker ((records.account? domain name).any carries)) : scope.Indexes carries := by
  intro store records hholds hrecords object
  rw [objects_eq, mem_restsUnder]
  simp only [Layout.mem_entries_iff hholds]
  constructor
  · rintro ⟨value, slot, hslot, hobject, hvalue⟩
    obtain ⟨domain, name, rfl, hplain⟩ := honly hslot hobject
    rw [hslots] at hvalue
    obtain ⟨account, hfound, hcarries⟩ := (Option.any_eq_true _ _).mp (marker_eq_some hvalue)
    obtain ⟨rfl, rfl, _⟩ := hrecords.accounts hfound
    refine ⟨account, hfound, hcarries, ?_⟩
    rw [← hkey] at hobject
    exact List.append_cancel_left hobject
  · rintro ⟨account, hfound, hcarries, rfl⟩
    have hplain := (hrecords.accounts hfound).2.2.plain
    refine ⟨[], slotOf account.domain account.name, hsound _ _ hplain, (hkey _ _).symm, ?_⟩
    rw [hslots, hfound, Option.any_some, hcarries]
    rfl

end Scope

namespace Registry

open Scope

theorem indexes_accountsOf (owner : Address) :
    (accountsOf owner).Indexes fun account => account.owner = owner := by
  apply indexes_of_slots (key_accountsOf owner)
  · exact fun _ _ hplain => hplain
  · intro slot rest hslot hkey
    cases slot with
    | accountByOwner owner' domain name =>
        simp only [Slot.key, Scope.key, accountsOf, ofBytes, Key.index, Index.tag,
          List.cons_append, List.nil_append, List.cons.injEq, true_and] at hkey
        obtain ⟨rfl, _⟩ := Slot.owner_append_inj hkey
        exact ⟨domain, name, rfl, hslot⟩
    | _ => simp [Slot.key, Scope.key, accountsOf, ofBytes, Key.index, Index.tag] at hkey
  · exact fun _ _ _ => rfl

theorem indexes_accountsAt {target : Target} (h : target.Packable) :
    ∃ scope, accountsAt target = .ok scope ∧
      scope.Indexes fun account => target ∈ account.targets := by
  obtain ⟨scope, hscope, hkey⟩ := accountsAt_of_packable h
  have hstem := (accountsAt_eq_ok_iff.mp hscope).2
  refine ⟨scope, hscope, indexes_of_slots hkey (fun _ _ hplain => ⟨h, hplain⟩) ?_
    fun _ _ _ => rfl⟩
  intro slot rest hslot hrest
  subst hstem
  cases slot with
  | accountByTarget target' domain name =>
      simp only [Slot.key, Scope.key, ofBytes, Key.index, Index.tag, List.cons_append,
        List.nil_append, List.cons.injEq, true_and] at hrest
      obtain ⟨rfl, _⟩ := Slot.targetSubject_append_inj hslot.1 h hrest
      exact ⟨domain, name, rfl, hslot.2⟩
  | _ => simp [Slot.key, Scope.key, ofBytes, Key.index, Index.tag] at hrest

theorem indexes_accountsWith {certificate : Bytes} (h : Packed.Packable certificate) :
    ∃ scope, accountsWith certificate = .ok scope ∧
      scope.Indexes fun account => certificate ∈ account.certificates := by
  obtain ⟨scope, hscope, hkey⟩ := accountsWith_of_packable h
  have hstem := (accountsWith_eq_ok_iff.mp hscope).2
  refine ⟨scope, hscope, indexes_of_slots hkey (fun _ _ hplain => ⟨h, hplain⟩) ?_
    fun _ _ _ => rfl⟩
  intro slot rest hslot hrest
  subst hstem
  cases slot with
  | accountByCertificate certificate' domain name =>
      simp only [Slot.key, Scope.key, ofBytes, Key.index, Index.tag, List.cons_append,
        List.nil_append, List.cons.injEq, true_and] at hrest
      obtain ⟨rfl, _⟩ := Slot.certificate_append_inj hslot.1 h hrest
      exact ⟨domain, name, rfl, hslot.2⟩
  | _ => simp [Slot.key, Scope.key, ofBytes, Key.index, Index.tag] at hrest

end Registry

namespace Holds

variable {store : Store} {records : Records}

theorem mem_domainsOf (h : Holds store records) (hrecords : records.Sound) (owner : Address)
    (object : Bytes) :
    object ∈ (Registry.domainsOf owner).objects store ↔ ∃ domain : Domain,
      records.domain? domain.name = some domain ∧ domain.admin = owner ∧
        Utf8.encode domain.name = object := by
  rw [Scope.objects_eq, mem_restsUnder]
  simp only [Layout.mem_entries_iff h]
  constructor
  · rintro ⟨value, slot, hslot, hkey, hvalue⟩
    cases slot with
    | domainByOwner owner' name =>
        simp only [Slot.key, Registry.domainsOf, Scope.ofBytes, Key.index, Index.tag,
          List.cons_append, List.nil_append, List.cons.injEq, true_and] at hkey
        obtain ⟨rfl, hname⟩ := Slot.owner_append_inj hkey
        obtain ⟨domain, hfound, hadmin⟩ := (Option.any_eq_true _ _).mp (marker_eq_some hvalue)
        obtain ⟨rfl, _⟩ := hrecords.domains hfound
        exact ⟨domain, hfound, of_decide_eq_true hadmin, hname⟩
    | _ => simp [Slot.key, Registry.domainsOf, Scope.ofBytes, Key.index, Index.tag] at hkey
  · rintro ⟨domain, hfound, rfl, rfl⟩
    refine ⟨[], .domainByOwner domain.admin domain.name, trivial, ?_, ?_⟩
    · exact (Registry.key_domainsOf _ _).symm
    · simp [Records.slots, hfound, marker]

theorem mem_accountsIn (h : Holds store records) (hrecords : records.Sound) {domain : String}
    (hplain : Plain domain) (rest : Bytes) :
    rest ∈ restsUnder store (Key.accountsIn domain) ↔ ∃ account : Account,
      records.account? account.domain account.name = some account ∧ account.domain = domain ∧
        Utf8.encode account.name = rest := by
  have hkey (name : String) :
      (Slot.accountRecord domain name).key = Key.accountsIn domain ++ Utf8.encode name :=
    (Key.account_eq_cons domain name).symm
  rw [mem_restsUnder]
  simp only [Layout.mem_entries_iff h]
  constructor
  · rintro ⟨value, slot, hslot, hrest, hvalue⟩
    obtain ⟨name, rfl⟩ := Slot.of_accountsIn hplain hslot (hrest ▸ List.prefix_append _ _)
    obtain ⟨account, hfound, _⟩ := Option.map_eq_some_iff.mp hvalue
    obtain ⟨rfl, rfl, _⟩ := hrecords.accounts hfound
    rw [hkey] at hrest
    exact ⟨account, hfound, rfl, List.append_cancel_left hrest⟩
  · rintro ⟨account, hfound, rfl, rfl⟩
    refine ⟨account.toBytes, .accountRecord account.domain account.name, hplain, hkey _, ?_⟩
    rw [Records.slots, hfound, Option.map_some]

end Holds

end NameRegistry
