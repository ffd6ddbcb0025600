import NameRegistry.Proofs.Delivery.Reachable
import NameRegistry.Proofs.Key.Splitting
import NameRegistry.Proofs.Query.Page
import NameRegistry.Proofs.Registry.Listing
import NameRegistry.Proofs.Registry.Scopes
import NameRegistry.Query.Basic

namespace NameRegistry

open Registry KeyValueStore

/-- Whether a domain is among the records of a store. -/
def HasDomain (store : Store) (domain : Domain) : Prop :=
  ∃ key value, (key, value) ∈ entriesUnder store Key.domains ∧ Domain.ofBytes value = .ok domain

/-- Whether an account is among the records of a store. -/
def HasAccount (store : Store) (account : Account) : Prop :=
  ∃ key value, (key, value) ∈ entriesUnder store Key.accounts ∧ Account.ofBytes value = .ok account

/-- Whether a query lists the records that belong to it: each once, as their keys ascend, over the
pages of any size from the first to the last one, none of which fails. The end of a page has to be a
number of 64 bits, which it is for all records that a memory can hold. -/
def Lists {α : Type} (store : Store) (query : Page → Query) (response : List α → Response)
    (key : α → Bytes) (belongs : α → Prop) : Prop :=
  ∃ records : List α, (records.Pairwise fun record record' => key record < key record') ∧
    (∀ record, record ∈ records ↔ belongs record) ∧
    (records.length < 2 ^ 62 → ∀ size : Int64, 0 < size.toInt → ∃ pages : List (List α),
      pages.flatten = records ∧ pages.length = Page.count size.toInt.toNat records.length ∧
      ∀ position page, pages[position]? = some page →
        answer store (query (.behind position size)) = .ok (response page))

theorem mapM_part {ε α β : Type} {read : α → Except ε β} {items : List α} {values : List β}
    (h : items.mapM read = .ok values) (size position : Nat) :
    (Page.part size items position).mapM read = .ok (Page.part size values position) := by
  rw [mapM_eq_ok_iff_forall₂] at h ⊢
  exact List.forall₂_take _ (List.forall₂_drop _ h)

/-- A query lists what is read of keys in order, if that is what belongs to it. -/
theorem lists_of_read {α : Type} {store : Store} {query : Page → Query}
    {response : List α → Response} {key : α → Bytes} {belongs : α → Prop} {keys : List Bytes}
    {read : Bytes → Except Error α}
    (hanswer : ∀ page, answer store (query page) =
      (do return response (← (← page.slice keys).mapM read)))
    (hkeys : keys.Pairwise (· < ·))
    (hread : ∀ given ∈ keys, ∃ record, read given = .ok record ∧ key record = given ∧
      belongs record)
    (hbelongs : ∀ record, belongs record → key record ∈ keys)
    (hunique : ∀ record record', belongs record → belongs record' → key record = key record' →
      record = record') : Lists store query response key belongs := by
  have hread' : ∀ given ∈ keys, ∃ record, read given = .ok record ∧ key record = id given ∧
      belongs record := hread
  obtain ⟨records, hrecords, hmap, hall⟩ := exists_mapM_eq_ok hread'
  rw [List.map_id] at hmap
  have hcount : keys.length = records.length := by rw [← hmap, List.length_map]
  refine ⟨records, ?_, ?_, ?_⟩
  · rw [← hmap] at hkeys
    exact List.pairwise_map.mp hkeys
  · intro record
    constructor
    · exact hall record
    · intro hrecord
      have hmem := hbelongs record hrecord
      rw [← hmap] at hmem
      obtain ⟨record', hmem', hkey⟩ := List.mem_map.mp hmem
      rw [← hunique record' record (hall record' hmem') hrecord hkey]
      exact hmem'
  · intro hlength size hsize
    refine ⟨Page.parts size.toInt.toNat records, ?_, ?_, ?_⟩
    · exact Page.flatten_parts (by omega) records
    · rw [Page.parts, List.length_map, List.length_range]
    · intro position page hpage
      rw [Page.parts, List.getElem?_map] at hpage
      obtain ⟨position', hposition, rfl⟩ := Option.map_eq_some_iff.mp hpage
      obtain ⟨hlt, hsame⟩ := List.getElem?_eq_some_iff.mp hposition
      rw [List.getElem_range] at hsame
      subst hsame
      rw [List.length_range, ← hcount] at hlt
      rw [← hcount] at hlength
      rw [hanswer, Page.slice_behind hsize hlength hlt]
      change ((Page.part _ keys _).mapM read >>= _) = _
      rw [mapM_part hrecords]
      rfl

namespace Holds

variable {store : Store} {records : Records}

theorem hasAccount_iff (h : Holds store records) (hsound : records.Sound) {account : Account} :
    HasAccount store account ↔
      records.account? account.domain account.name = some account := by
  constructor
  · rintro ⟨key, value, hentry, hread⟩
    obtain ⟨account', hread', _, hfound⟩ := h.account_of_entry hsound hentry
    obtain rfl := Except.ok.inj (hread.symm.trans hread')
    exact hfound
  · intro hfound
    have hvalid := (hsound.accounts hfound).2.2
    have hget := h.at_slot (.accountRecord account.domain account.name) hvalid.plain
    rw [Records.slots, hfound, Option.map_some] at hget
    refine ⟨1 :: account.object, account.toBytes, ?_, Account.ofBytes_toBytes hvalid.fits⟩
    exact mem_entriesUnder.mpr ⟨List.prefix_append [1] _, hget⟩

theorem hasDomain_iff (h : Holds store records) (hsound : records.Sound) {domain : Domain} :
    HasDomain store domain ↔ records.domain? domain.name = some domain := by
  constructor
  · rintro ⟨key, value, hentry, hread⟩
    obtain ⟨domain', hread', _, hfound⟩ := h.domain_of_entry hsound hentry
    obtain rfl := Except.ok.inj (hread.symm.trans hread')
    exact hfound
  · intro hfound
    have hvalid := (hsound.domains hfound).2
    have hget := h.at_slot (.domainRecord domain.name) trivial
    rw [Records.slots, hfound, Option.map_some] at hget
    refine ⟨Key.domain domain.name, domain.toBytes, ?_, Domain.ofBytes_toBytes hvalid.fits⟩
    exact mem_entriesUnder.mpr ⟨List.prefix_append [0] _, hget⟩

theorem lists_of_scope (h : Holds store records) (hsound : records.Sound) {scope : Scope}
    {carries : Account → Prop} [DecidablePred carries]
    (hscope : scope.Indexes fun account => carries account) (query : Page → Query)
    (hanswer : ∀ page, answer store (query page) =
      (do return .accounts (← accountsOfObjects store (scope.objects store) page))) :
    Lists store query .accounts Account.object
      fun account => HasAccount store account ∧ carries account := by
  have hobject := hscope h hsound
  simp only [decide_eq_true_eq] at hobject
  have hread (page : Page) : answer store (query page) =
      (do return .accounts (← (← page.slice (scope.objects store)).mapM
        (accountOfObject store))) := by
    rw [hanswer, accountsOfObjects, bind_assoc]
  apply lists_of_read hread
  · rw [Scope.objects_eq]
    exact pairwise_restsUnder store scope.stem
  · intro object hmem
    obtain ⟨account, hfound, hcarries, rfl⟩ := (hobject object).mp hmem
    have hplain := (hsound.accounts hfound).2.2.plain
    refine ⟨account, ?_, rfl, (h.hasAccount_iff hsound).mpr hfound, hcarries⟩
    rw [accountOfObject, Account.object, Key.splitObject_object hplain]
    change (account? store account.domain account.name >>= _) = _
    rw [h.account?_eq hsound hplain, hfound]
    rfl
  · rintro account ⟨hhas, hcarries⟩
    exact (hobject _).mpr ⟨account, (h.hasAccount_iff hsound).mp hhas, hcarries, rfl⟩
  · rintro account account' ⟨hhas, _⟩ ⟨hhas', _⟩ heq
    rw [h.hasAccount_iff hsound] at hhas hhas'
    obtain ⟨hdomain, hname⟩ := Key.object_inj (hsound.accounts hhas).2.2.plain
      (hsound.accounts hhas').2.2.plain heq
    rw [hdomain, hname, hhas'] at hhas
    exact (Option.some.inj hhas).symm

theorem lists_domainsOwnedBy (h : Holds store records) (hsound : records.Sound) {owner : Address}
    (howner : owner ≠ Address.empty) :
    Lists store (.domainsOwnedBy owner) .domains (fun domain => Utf8.encode domain.name)
      fun domain => HasDomain store domain ∧ domain.admin = owner := by
  have hempty : owner.isEmpty = false := decide_eq_false howner
  have hmem := h.mem_domainsOf hsound owner
  have hanswer (page : Page) : answer store (.domainsOwnedBy owner page) =
      (do return .domains (← (← page.slice ((domainsOf owner).objects store)).mapM
        fun name => resolveDomain store (Utf8.decodeLossy name))) := by
    rw [answer, requireOwner, Registry.domainsOwnedBy, hempty]
    rfl
  apply lists_of_read hanswer
  · rw [Scope.objects_eq]
    exact pairwise_restsUnder store _
  · intro name hname
    obtain ⟨domain, hfound, hadmin, rfl⟩ := (hmem name).mp hname
    refine ⟨domain, ?_, rfl, (h.hasDomain_iff hsound).mpr hfound, hadmin⟩
    rw [Utf8.decodeLossy_encode, resolveDomain, h.domain?_eq hsound, hfound]
    rfl
  · rintro domain ⟨hhas, hadmin⟩
    exact (hmem _).mpr ⟨domain, (h.hasDomain_iff hsound).mp hhas, hadmin, rfl⟩
  · rintro domain domain' ⟨hhas, _⟩ ⟨hhas', _⟩ heq
    rw [h.hasDomain_iff hsound] at hhas hhas'
    rw [Utf8.encode_injective heq, hhas'] at hhas
    exact (Option.some.inj hhas).symm

theorem lists_accountsInDomain (h : Holds store records) (hsound : records.Sound) {domain : String}
    (hplain : Plain domain) :
    Lists store (.accountsInDomain domain) .accounts (fun account => Utf8.encode account.name)
      fun account => HasAccount store account ∧ account.domain = domain := by
  have hmem := h.mem_accountsIn hsound hplain
  have hanswer (page : Page) : answer store (.accountsInDomain domain page) =
      (do return .accounts (← (← page.slice (restsUnder store (Key.accountsIn domain))).mapM
        fun name => resolveAccount store domain (Utf8.decodeLossy name))) := by
    rw [answer, accountNames_eq_rests, Page.slice_map]
    cases page.slice (restsUnder store (Key.accountsIn domain)) with
    | error error => rfl
    | ok names =>
        change ((names.map Utf8.decodeLossy).mapM (resolveAccount store domain) >>= _) = _
        rw [List.mapM_map]
        rfl
  apply lists_of_read hanswer
  · exact pairwise_restsUnder store _
  · intro name hname
    obtain ⟨account, hfound, rfl, rfl⟩ := (hmem name).mp hname
    refine ⟨account, ?_, rfl, (h.hasAccount_iff hsound).mpr hfound, rfl⟩
    rw [Utf8.decodeLossy_encode, resolveAccount, h.account?_eq hsound hplain, hfound]
    rfl
  · rintro account ⟨hhas, hdomain⟩
    exact (hmem _).mpr ⟨account, (h.hasAccount_iff hsound).mp hhas, hdomain, rfl⟩
  · rintro account account' ⟨hhas, hdomain⟩ ⟨hhas', hdomain'⟩ heq
    rw [h.hasAccount_iff hsound] at hhas hhas'
    rw [hdomain, Utf8.encode_injective heq, ← hdomain', hhas'] at hhas
    exact (Option.some.inj hhas).symm

end Holds

/-- In every store that deliveries lead to, the queries for the accounts of an owner, of a target
and of a certificate list them in the order of their objects, and the queries for the domains of an
administrator and for the accounts of a domain list them in the order of their names. -/
theorem Reachable.lists {store : Store} (h : Reachable store) :
    (∀ owner, owner ≠ Address.empty →
      Lists store (.accountsOwnedBy owner) .accounts Account.object
        fun account => HasAccount store account ∧ account.owner = owner) ∧
    (∀ target, target.Packable →
      Lists store (.accountsByTarget target) .accounts Account.object
        fun account => HasAccount store account ∧ target ∈ account.targets) ∧
    (∀ certificate, Packed.Packable certificate →
      Lists store (.accountsByCertificate certificate) .accounts Account.object
        fun account => HasAccount store account ∧ certificate ∈ account.certificates) ∧
    (∀ owner, owner ≠ Address.empty →
      Lists store (.domainsOwnedBy owner) .domains (fun domain => Utf8.encode domain.name)
        fun domain => HasDomain store domain ∧ domain.admin = owner) ∧
    (∀ domain, '*' ∉ domain.toList →
      Lists store (.accountsInDomain domain) .accounts (fun account => Utf8.encode account.name)
        fun account => HasAccount store account ∧ account.domain = domain) := by
  obtain ⟨records, hholds, hsound, _⟩ := h.consistent
  refine ⟨?_, ?_, ?_, ?_, ?_⟩
  · intro owner howner
    have hempty : owner.isEmpty = false := decide_eq_false howner
    apply hholds.lists_of_scope hsound (indexes_accountsOf owner)
    intro page
    rw [answer, requireOwner, Registry.accountsOwnedBy, hempty]
    rfl
  · intro target htarget
    obtain ⟨scope, hscope, hindexes⟩ := indexes_accountsAt htarget
    apply hholds.lists_of_scope hsound hindexes
    intro page
    rw [answer, Registry.accountsByTarget, hscope]
    rfl
  · intro certificate hcertificate
    obtain ⟨scope, hscope, hindexes⟩ := indexes_accountsWith hcertificate
    apply hholds.lists_of_scope hsound hindexes
    intro page
    rw [answer, Registry.accountsByCertificate, hscope]
    rfl
  · intro owner howner
    exact hholds.lists_domainsOwnedBy hsound howner
  · intro domain hdomain
    exact hholds.lists_accountsInDomain hsound (plain_of_notMem hdomain)

/-- Behind the root account, the second page of size one holds Bob's account. -/
theorem lists_sample :
    answer Sample.store (.accountsInDomain "bank" (.behind 1 1)) =
        .ok (.accounts [Sample.teller]) ∧
      Lists Sample.store (.accountsInDomain "bank") .accounts
        (fun account => Utf8.encode account.name)
        (fun account => HasAccount Sample.store account ∧ account.domain = "bank") ∧
      Lists Sample.store (.accountsOwnedBy Sample.bob) .accounts Account.object
        fun account => HasAccount Sample.store account ∧ account.owner = Sample.bob := by
  obtain ⟨hbyOwner, _, _, _, hbyDomain⟩ := Reachable.lists Sample.reachable_store
  exact ⟨by decide +kernel, hbyDomain "bank" (by decide), hbyOwner Sample.bob (by decide)⟩

end NameRegistry
