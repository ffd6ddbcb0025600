import NameRegistry.Proofs.Delivery.Locality
import NameRegistry.Proofs.Delivery.Rules
import NameRegistry.Proofs.Pattern.Anchored
import NameRegistry.Proofs.Query.Listing
/-!
One account under several names. A key holds the names of an account with a separator between them,
and any separator will do: an account whose name has one is also found under a longer name of a
domain that need not exist. Where none has one, every name of a domain leads to its own accounts
only (`Reachable.unaliased_iff`). It is the pattern for the names of accounts that keeps separators
out of them (`Delivered.unaliased`), as the usual one does (`Delivered.unaliased_standard`).
-/
namespace NameRegistry

open Registry

/-- Whether the name of a domain leads to its own accounts only: what resolves and what is listed
has this domain, and without the domain no message about an account of it goes through. -/
structure Unaliased (store : Store) (domainName : String) : Prop where
  resolves {name : String} {account : Account} :
    resolveAccount store domainName name = .ok account →
      account.domain = domainName ∧ account.name = name
  lists {page : Page} {accounts : List Account} :
    answer store (.accountsInDomain domainName page) = .ok (.accounts accounts) →
      ∀ account ∈ accounts, account.domain = domainName
  refuses {environment : Environment} {context : Context} {message : Message} {name : String}
    {action : AccountAction} :
    domain? store domainName = .ok none → message.action = .account domainName name action →
      message.action.Fits → (environment.deliver context message store).result ≠ .ok ()

section Names

variable {store : Store} {records : Records}

theorem Holds.account_of_resolveAccount (h : Holds store records) (hsound : records.Sound)
    {domainName name : String} {account : Account}
    (hresolve : resolveAccount store domainName name = .ok account) :
    records.account? account.domain account.name = some account ∧
      Key.object account.domain account.name = Key.object domainName name := by
  obtain ⟨domain', name', hplain, hobject⟩ := Key.exists_plain_object domainName name
  rw [resolveAccount, h.account?_of_object hsound hplain hobject] at hresolve
  cases hfound : records.account? domain' name' with
  | none =>
      rw [hfound] at hresolve
      cases hresolve
  | some account' =>
      rw [hfound] at hresolve
      obtain rfl := Except.ok.inj hresolve
      obtain ⟨rfl, rfl, _⟩ := hsound.accounts hfound
      exact ⟨hfound, hobject⟩

theorem exists_resolved {domainName : String} {page : Page} {accounts : List Account}
    (hlist : answer store (.accountsInDomain domainName page) = .ok (.accounts accounts))
    {account : Account} (hmem : account ∈ accounts) :
    ∃ name, resolveAccount store domainName name = .ok account := by
  obtain ⟨names, _, hlist⟩ := bind_eq_ok_iff.mp hlist
  obtain ⟨_, hread, hlist⟩ := bind_eq_ok_iff.mp hlist
  obtain rfl := Response.accounts.inj (Except.ok.inj hlist)
  obtain ⟨position, hposition, rfl⟩ := List.mem_iff_getElem.mp hmem
  obtain ⟨hlength, hread⟩ := List.forall₂_iff_get.mp (mapM_eq_ok_iff_forall₂.mp hread)
  exact ⟨_, hread position (hlength ▸ hposition) hposition⟩

/-- Whether the accounts that share an object with names under a domain name are accounts of this
domain. -/
def Records.OwnObjects (records : Records) (domainName : String) : Prop :=
  ∀ account name, records.account? account.domain account.name = some account →
    Key.object account.domain account.name = Key.object domainName name →
      account.domain = domainName ∧ account.name = name

theorem Decision.Granted.exists_domain {situation : Situation Store} {signer : Address}
    {domainName name : String} {action : AccountAction} {change : Change}
    (h : Granted situation records signer (.account domainName name action) change)
    (hlinked : records.Linked) (hown : records.OwnObjects domainName) :
    ∃ domain, records.domain? domainName = some domain := by
  have hshared {account : Account}
      (hfound : records.account? account.domain account.name = some account)
      (hobject : Key.object account.domain account.name = Key.object domainName name) :
      ∃ domain, records.domain? domainName = some domain := by
    obtain ⟨rfl, rfl⟩ := hown account name hfound hobject
    exact hlinked.parent hfound
  cases h with
  | registerAccount _ hfound => exact ⟨_, hfound⟩
  | renewAccount hfound => exact ⟨_, hfound⟩
  | deleteAccount hfound => exact ⟨_, hfound⟩
  | transferAccount _ hfound => exact ⟨_, hfound⟩
  | replaceTargets hfound => exact ⟨_, hfound⟩
  | addCertificate hfound hobject => exact hshared hfound hobject
  | deleteCertificate hfound hobject => exact hshared hfound hobject
  | replaceMetadata hfound hobject => exact hshared hfound hobject

theorem Consistent.unaliased_of_ownObjects (h : Consistent store records) {domainName : String}
    (hown : records.OwnObjects domainName) : Unaliased store domainName where
  resolves hresolve := by
    obtain ⟨hfound, hobject⟩ := h.holds.account_of_resolveAccount h.sound hresolve
    exact hown _ _ hfound hobject
  lists hlist account hmem := by
    obtain ⟨name, hresolve⟩ := exists_resolved hlist hmem
    obtain ⟨hfound, hobject⟩ := h.holds.account_of_resolveAccount h.sound hresolve
    exact (hown account name hfound hobject).1
  refuses hnone haction hfits haccepted := by
    obtain ⟨change, hgranted, _⟩ := Environment.granted_of_accepted h haccepted hfits
    rw [haction] at hgranted
    obtain ⟨domain, hfound⟩ := hgranted.exists_domain h.linked hown
    rw [h.holds.domain?_eq h.sound, hfound] at hnone
    cases hnone

theorem Records.Sound.ownObjects_of_plain (hsound : records.Sound) {domainName : String}
    (hplain : Plain domainName) : records.OwnObjects domainName :=
  fun _ _ hfound hobject => hsound.names_of_object hfound hplain hobject

theorem Records.Sound.ownObjects (hsound : records.Sound)
    (hnames : ∀ account, records.account? account.domain account.name = some account →
      '*' ∉ account.name.toList) (domainName : String) : records.OwnObjects domainName := by
  intro account name hfound hobject
  have hplain := (hsound.accounts hfound).2.2.plain
  have hplain' := Key.plain_of_object hplain (plain_of_notMem (hnames account hfound)) hobject
  exact hsound.names_of_object hfound hplain' hobject

end Names

/-- Every name of a domain leads to its own accounts only if and only if no account has a separator
in its name. -/
theorem Reachable.unaliased_iff {store : Store} (h : Reachable store) :
    (∀ domainName, Unaliased store domainName) ↔
      ∀ account, HasAccount store account → '*' ∉ account.name.toList := by
  obtain ⟨records, hconsistent⟩ := h.consistent
  have hholds := hconsistent.holds
  have hsound := hconsistent.sound
  constructor
  · intro hunaliased account hhas hmem
    have hfound := (hholds.hasAccount_iff hsound).mp hhas
    have hplain := (hsound.accounts hfound).2.2.plain
    obtain ⟨before, after, _, hsplit⟩ := exists_append_of_mem hmem
    have hobject := Key.object_append account.domain before after
    rw [← hsplit] at hobject
    have hresolve : resolveAccount store (account.domain ++ "*" ++ before) after = .ok account := by
      rw [resolveAccount, hholds.account?_of_object hsound hplain hobject.symm, hfound]
      rfl
    have hlength := congrArg String.length ((hunaliased _).resolves hresolve).1
    have hone : "*".length = 1 := by decide
    rw [String.length_append, String.length_append] at hlength
    omega
  · intro hnames domainName
    apply hconsistent.unaliased_of_ownObjects
    refine hsound.ownObjects (fun account hfound => ?_) domainName
    exact hnames account ((hholds.hasAccount_iff hsound).mpr hfound)

theorem Delivered.readable_of_hasAccount {language : PatternLanguage} {config : Config}
    {store : Store} (h : Delivered language config store) {account : Account}
    (haccount : HasAccount store account) : config.Readable language := by
  cases h with
  | empty =>
      obtain ⟨_, _, hentry, _⟩ := haccount
      cases hentry
  | deliver _ _ _ hfixed =>
      exact Config.readable_of_validate (Environment.fixed_eq_ok hfixed).1

theorem Delivered.unaliased_of_pattern {language : PatternLanguage} {config : Config}
    {store : Store} (h : Delivered language config store)
    (hpattern : ∀ name,
      config.validity.accepts language .accountName name = .ok true → '*' ∉ name.toList)
    (domainName : String) : Unaliased store domainName := by
  obtain ⟨records, hconsistent, hrules⟩ := h.exists_records (config.keeps_rules language)
  apply hconsistent.unaliased_of_ownObjects
  refine hconsistent.sound.ownObjects (fun account hfound => ?_) domainName
  by_cases hroot : account.name = ""
  · rw [hroot]
    exact List.not_mem_nil
  · have haccount := (hconsistent.holds.hasAccount_iff hconsistent.sound).mpr hfound
    apply hpattern
    rw [(h.readable_of_hasAccount haccount).accepts_eq]
    exact congrArg Except.ok ((hrules.accounts hfound).name hroot)

/-- A name without a separator leads to the accounts of its own domain only, and so does every name
if the pattern for the names of accounts keeps separators out of them. -/
theorem Delivered.unaliased {language : PatternLanguage} {config : Config} {store : Store}
    (h : Delivered language config store) {domainName : String}
    (hseparator : '*' ∉ domainName.toList ∨ ∀ name,
      config.validity.accepts language .accountName name = .ok true → '*' ∉ name.toList) :
    Unaliased store domainName := by
  rcases hseparator with hplain | hpattern
  · obtain ⟨records, hconsistent⟩ := h.reachable.consistent
    apply hconsistent.unaliased_of_ownObjects
    exact hconsistent.sound.ownObjects_of_plain (plain_of_notMem hplain)
  · exact h.unaliased_of_pattern hpattern domainName

namespace Sample

/-- The configuration for tests with a pattern that need not match the whole of a name. -/
def loose : Config :=
  { Config.testing with validity := { Config.testing.validity with accountName := "[a-z]+" } }

theorem validate_loose : loose.validate Pattern.language = .ok () := by decide +kernel

/-- Alice registers an account whose name has a separator. -/
def registerSplit : Message := ⟨alice, none, .account "bank" "a*b" (.register alice [] none)⟩

/-- The store with Alice's domain. -/
def looseStore : Store := ((ledgerUnder loose).deliver (block 100) registerBank ∅).store

def splitStore : Store :=
  ((ledgerUnder loose).deliver (block 100) registerSplit looseStore).store

theorem delivered_splitStore : Delivered Pattern.language loose splitStore :=
  .deliver (block 100) registerSplit
    (.deliver (block 100) registerBank .empty (fixed_ledgerUnder validate_loose) (by decide))
    (fixed_ledgerUnder validate_loose) (by decide)

/-- Alice certifies an account of a domain that there is not. -/
def certifySplit : Message := ⟨alice, none, .account "bank*a" "b" (.addCertificate [1])⟩

end Sample

/-- The account is listed for its own domain. -/
theorem unaliased_sample :
    let split := Account.plain "bank" "a*b" Sample.alice neverExpires
    resolveAccount Sample.splitStore "bank" "a*b" = .ok split ∧
      Unaliased Sample.splitStore "bank" :=
  ⟨by decide +kernel, Delivered.unaliased Sample.delivered_splitStore (.inl (by decide))⟩

/-- The same account is found, listed and changed under the name of a domain that there is not. -/
theorem aliased_account :
    let split := Account.plain "bank" "a*b" Sample.alice neverExpires
    Delivered Pattern.language Sample.loose Sample.splitStore ∧
      domain? Sample.splitStore "bank*a" = .ok none ∧
      resolveAccount Sample.splitStore "bank*a" "b" = .ok split ∧ split.domain ≠ "bank*a" ∧
      answer Sample.splitStore (.accountsInDomain "bank*a" ⟨1, 10⟩) = .ok (.accounts [split]) ∧
      ((Sample.ledgerUnder Sample.loose).deliver (Sample.block 100) Sample.certifySplit
        Sample.splitStore).result = .ok () := by
  refine ⟨Sample.delivered_splitStore, ?_, ?_, ?_, ?_, ?_⟩ <;> decide +kernel

theorem notMem_of_accepts_standard {validity : Validity}
    (hpattern : validity.accountName = Config.standard.validity.accountName) {name : String}
    (h : validity.accepts Pattern.language .accountName name = .ok true) : '*' ∉ name.toList := by
  have hread : Pattern.ofText? Config.standard.validity.accountName =
      some (.whole false [('-', '-'), ('_', '_'), ('.', '.'), ('a', 'z'), ('0', '9')] 1
        (some 64)) := by decide +kernel
  have hmatch := Validity.isMatch_of_accepts h
  rw [Validity.pattern, hpattern, PatternLanguage.isMatch, Pattern.language] at hmatch
  dsimp only at hmatch
  rw [hread] at hmatch
  intro hmem
  exact absurd (Pattern.isMatch_whole hmatch '*' hmem) (by decide)

/-- Under the usual pattern for the names of accounts every name of a domain leads to its own
accounts only. -/
theorem Delivered.unaliased_standard {config : Config} {store : Store}
    (h : Delivered Pattern.language config store)
    (hpattern : config.validity.accountName = Config.standard.validity.accountName)
    (domainName : String) : Unaliased store domainName :=
  h.unaliased_of_pattern (fun _ => notMem_of_accepts_standard hpattern) domainName

end NameRegistry
