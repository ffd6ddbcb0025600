import NameRegistry.Proofs.Delivery.Reachable

namespace NameRegistry

open Registry

theorem Registry.decertified_certified (account : Account) (certificate : Bytes) :
    decertified (certified account certificate) account.certificates.length = account := by
  rw [decertified, certified, List.eraseIdx_append_of_length_le (Nat.le_refl _), Nat.sub_self,
    List.eraseIdx_cons_zero, List.append_nil]

/-- Whether a change of an account returns the account `written` and leaves its record in the store,
and the inverse change, made of what was returned, returns the account as it was and leaves the
store as it was. -/
def Undone (store : Store) (change : Update Store Account)
    (inverse : Account → Update Store Account) (account written : Account) : Prop :=
  ∃ changed, change store = .ok written changed ∧
    KeyValueStore.get? changed (Key.account account.domain account.name) = some written.toBytes ∧
    inverse written changed = .ok account store

namespace Holds

variable {store : Store} {records : Records}

theorem eq_ok_of_reaches {α : Type} {before : Store} {update : Update Store α} {value : α}
    (h : Holds store records) (hreaches : Reaches update before value records.slots) :
    update before = .ok value store := by
  obtain ⟨after, hupdate, hafter⟩ := hreaches
  rw [hupdate, Layout.store_eq hafter h]

theorem get?_setAccount {account : Account} (hplain : Plain account.domain) {written : Account}
    (h : Holds store (records.setAccount account.domain account.name (some written))) :
    KeyValueStore.get? store (Key.account account.domain account.name) = some written.toBytes := by
  rw [h.get?_account hplain, Records.account?_setAccount, if_pos ⟨rfl, rfl⟩, Option.map_some]

/-- A change to another record and the change back leave the records as they were. -/
theorem undone_of_reaches (h : Holds store records) {account written : Account}
    (hplain : Plain account.domain)
    (hfound : records.account? account.domain account.name = some account)
    {change : Update Store Account} {inverse : Account → Update Store Account}
    (hchange : Reaches change store written
      (records.setAccount account.domain account.name (some written)).slots)
    (hinverse : ∀ {changed},
      Holds changed (records.setAccount account.domain account.name (some written)) →
        Reaches (inverse written) changed account ((records.setAccount account.domain account.name
          (some written)).setAccount account.domain account.name (some account)).slots) :
    Undone store change inverse account written := by
  obtain ⟨changed, hrun, hchanged⟩ := hchange
  refine ⟨changed, hrun, get?_setAccount hplain hchanged, h.eq_ok_of_reaches ?_⟩
  have hback := hinverse hchanged
  rwa [Records.setAccount_setAccount, ← hfound, Records.setAccount_self] at hback

theorem createAccount_undone (h : Holds store records) {account : Account}
    (haccount : account.Indexable) (hfits : account.Fits)
    (hnew : records.account? account.domain account.name = none) :
    ∃ changed, createAccount account store = .ok () changed ∧
      KeyValueStore.get? changed (Key.account account.domain account.name) =
        some account.toBytes ∧
      deleteAccount account.domain account.name changed = .ok true store := by
  obtain ⟨changed, hrun, hchanged⟩ := reaches_createAccount h haccount hnew
  refine ⟨changed, hrun, get?_setAccount haccount.plain hchanged, h.eq_ok_of_reaches ?_⟩
  have hfound : (records.setAccount account.domain account.name (some account)).account?
      account.domain account.name = some account := if_pos ⟨rfl, rfl⟩
  have hback := reaches_deleteAccount_found hchanged haccount hfits hfound
  rwa [Records.setAccount_setAccount, ← hnew, Records.setAccount_self] at hback

section Stored

variable {account : Account} (h : Holds store records) (haccount : account.Indexable)
  (hfound : records.account? account.domain account.name = some account)
include h haccount hfound

theorem transferAccount_undone {newOwner : Address} (howner : newOwner ≠ Address.empty) :
    Undone store (transferAccount account newOwner false)
      (fun moved => transferAccount moved account.owner false) account
      { account with owner := newOwner } := by
  have hmoved : { account with owner := newOwner }.Indexable := { haccount with owner := howner }
  refine h.undone_of_reaches haccount.plain hfound
    (reaches_transferAccount h haccount hfound howner false) fun hchanged => ?_
  exact reaches_transferAccount hchanged hmoved (if_pos ⟨rfl, rfl⟩) haccount.owner false

theorem replaceTargets_undone {targets : List Target}
    (htargets : ∀ target ∈ targets, target.Packable) :
    Undone store (replaceTargets account targets)
      (fun changed => replaceTargets changed account.targets) account
      { account with targets := targets } := by
  have hchanged : { account with targets := targets }.Indexable :=
    { haccount with targets := htargets }
  refine h.undone_of_reaches haccount.plain hfound
    (reaches_replaceTargets h haccount hfound htargets) fun hheld => ?_
  exact reaches_replaceTargets hheld hchanged (if_pos ⟨rfl, rfl⟩) haccount.targets

theorem addCertificate_undone {certificate : Bytes} (hdistinct : account.certificates.Nodup)
    (hpackable : Packed.Packable certificate) (hnew : certificate ∉ account.certificates) :
    Undone store (addCertificate account certificate)
      (fun changed => deleteCertificate changed (changed.certificates.length - 1)) account
      (certified account certificate) := by
  have hcertified : (certified account certificate).Indexable := by
    refine { haccount with certificates := ?_ }
    simpa [certified, or_imp, forall_and] using And.intro haccount.certificates hpackable
  have hdistinct' : (certified account certificate).certificates.Nodup :=
    List.nodup_append.mpr ⟨hdistinct, by simp, by grind⟩
  have hlength : (certified account certificate).certificates.length - 1 =
      account.certificates.length := by simp [certified]
  have hlast : (certified account certificate).certificates[account.certificates.length]? =
      some certificate := by simp [certified]
  refine h.undone_of_reaches haccount.plain hfound
    (reaches_addCertificate h haccount.plain hfound hpackable) fun hheld => ?_
  have hback := reaches_deleteCertificate hheld hcertified hdistinct' (if_pos ⟨rfl, rfl⟩) hlast
  rw [decertified_certified] at hback
  rwa [hlength]

end Stored

end Holds

/-- On every store that deliveries lead to, changes of accounts are taken back by their inverses,
down to the last entry: to create an account where there was none by deleting it, to move an account
to another owner or to other targets by moving it back, and to add a certificate by deleting the
last one. An account fits if its lengths are numbers of 64 bits, as those of all data in memory are. -/
theorem Reachable.changes_undone {store : Store} (h : Reachable store) {domain : String}
    (hdomain : '*' ∉ domain.toList) (name : String) :
    (account? store domain name = .ok none → ∀ account : Account, account.domain = domain →
      account.name = name → account.owner ≠ Address.empty →
      (∀ target ∈ account.targets, target.Packable) →
      (∀ certificate ∈ account.certificates, Packed.Packable certificate) → account.Fits →
        ∃ changed, createAccount account store = .ok () changed ∧
          KeyValueStore.get? changed (Key.account domain name) = some account.toBytes ∧
          deleteAccount domain name changed = .ok true store) ∧
    ∀ account, account? store domain name = .ok (some account) →
      (∀ newOwner, newOwner ≠ Address.empty →
        Undone store (transferAccount account newOwner false)
          (fun moved => transferAccount moved account.owner false) account
          { account with owner := newOwner }) ∧
      (∀ targets : List Target, (∀ target ∈ targets, target.Packable) →
        Undone store (replaceTargets account targets)
          (fun changed => replaceTargets changed account.targets) account
          { account with targets := targets }) ∧
      ∀ certificate, Packed.Packable certificate → certificate ∉ account.certificates →
        Undone store (addCertificate account certificate)
          (fun changed => deleteCertificate changed (changed.certificates.length - 1)) account
          { account with certificates := account.certificates ++ [certificate] } := by
  obtain ⟨records, hholds, hsound, _⟩ := h.consistent
  have hplain := plain_of_notMem hdomain
  rw [hholds.account?_eq hsound hplain]
  constructor
  · rintro hnone account rfl rfl howner htargets hcertificates hfits
    exact hholds.createAccount_undone ⟨hplain, howner, htargets, hcertificates⟩ hfits
      (Except.ok.inj hnone)
  · intro account hsome
    have hfound := Except.ok.inj hsome
    obtain ⟨rfl, rfl, hvalid⟩ := hsound.accounts hfound
    refine ⟨?_, ?_, ?_⟩
    · intro newOwner howner
      exact hholds.transferAccount_undone hvalid.indexable hfound howner
    · intro targets htargets
      exact hholds.replaceTargets_undone hvalid.indexable hfound htargets
    · intro certificate hpackable hnew
      exact hholds.addCertificate_undone hvalid.indexable hfound hvalid.distinct hpackable hnew

namespace Sample

/-- An account that names one target twice, and one certificate twice. -/
def doubled : Account :=
  { Account.plain "bank" "a*b" bob 200 with
    targets := [⟨"iov", "abc"⟩, ⟨"iov", "abc"⟩], certificates := [[7], [7]] }

end Sample

/-- An account that names things twice comes and goes without a trace; and Bob's account passes to
himself, gets a list of targets that overlaps its own, and gets a certificate, each time with a way
back. -/
theorem changes_undone_sample :
    account? Sample.store "bank" "a*b" = .ok none ∧
      (∃ changed, createAccount Sample.doubled Sample.store = .ok () changed ∧
        KeyValueStore.get? changed (Key.account "bank" "a*b") = some Sample.doubled.toBytes ∧
        deleteAccount "bank" "a*b" changed = .ok true Sample.store) ∧
      account? Sample.store "bank" "teller" = .ok (some Sample.teller) ∧
      Undone Sample.store (transferAccount Sample.teller Sample.bob false)
        (fun moved => transferAccount moved Sample.bob false) Sample.teller Sample.teller ∧
      Undone Sample.store
        (replaceTargets Sample.teller [⟨"eth", "1"⟩, ⟨"iov", "abc"⟩, ⟨"eth", "1"⟩])
        (fun changed => replaceTargets changed Sample.teller.targets) Sample.teller
        { Sample.teller with targets := [⟨"eth", "1"⟩, ⟨"iov", "abc"⟩, ⟨"eth", "1"⟩] } ∧
      Undone Sample.store (addCertificate Sample.teller [9])
        (fun changed => deleteCertificate changed (changed.certificates.length - 1)) Sample.teller
        { Sample.teller with certificates := [[1, 2, 3], [9]] } := by
  have hbank : '*' ∉ "bank".toList := by decide
  have hnone : account? Sample.store "bank" "a*b" = .ok none := by decide +kernel
  have hteller : account? Sample.store "bank" "teller" = .ok (some Sample.teller) := by
    decide +kernel
  obtain ⟨hcreate, _⟩ := Reachable.changes_undone Sample.reachable_store hbank "a*b"
  obtain ⟨_, hstored⟩ := Reachable.changes_undone Sample.reachable_store hbank "teller"
  obtain ⟨htransfer, hreplace, hadd⟩ := hstored Sample.teller hteller
  have htargets : ∀ target ∈ Sample.doubled.targets, target.Packable := by decide
  have hfits : Sample.doubled.Fits := by
    refine ⟨by decide, by decide, by decide, ?_, by decide, by decide, by decide⟩
    exact fun target htarget => (htargets target htarget).fits
  exact ⟨hnone, hcreate hnone Sample.doubled rfl rfl (by decide) htargets (by decide) hfits,
    hteller, htransfer Sample.bob (by decide), hreplace _ (by decide),
    hadd [9] (by decide) (by decide)⟩

end NameRegistry
