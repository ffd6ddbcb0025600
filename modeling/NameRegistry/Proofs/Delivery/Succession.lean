import NameRegistry.Proofs.Delivery.Outcome
/-!
How records come about. A domain or an account that a granted action leaves comes out of what there
was under its names by one of a few steps (`Decision.Granted.succeeds_domain`,
`Decision.Granted.succeeds_account`), and so does every record that a delivery leaves
(`Environment.deliver_succeed`). A property of single records that all of these steps keep is one of
every record where deliveries under one configuration lead (`Delivered.exists_records`).
-/
namespace NameRegistry

open Decision

/-- How a domain that a granted action leaves comes out of what there was under its name. -/
inductive Domain.Succeeds (situation : Situation Store) : Option Domain → Domain → Prop
  | kept {domain : Domain} : Succeeds situation (some domain) domain
  | registered {name : String} {admin : Address} {domainType : DomainType}
      {broker : Option Address} :
      DomainGuard.isValidName situation.language situation.config name = .ok true →
      Succeeds situation none (newDomain situation name admin domainType broker)
  | renewed {domain : Domain} :
      Succeeds situation (some domain) { domain with
        validUntil := addSeconds domain.validUntil situation.config.domainRenewal.wholeSeconds }
  | transferred {domain : Domain} {newAdmin : Address} :
      Succeeds situation (some domain) (Registry.transferred domain newAdmin)

/-- How an account that a granted action leaves comes out of what there was under its names. -/
inductive Account.Succeeds (situation : Situation Store) (records : Records) (action : Action) :
    Option Account → Account → Prop
  | kept {account : Account} : Succeeds situation records action (some account) account
  | root {domain : Domain} : Succeeds situation records action none (rootAccount domain)
  | registered {domainName name : String} {owner : Address} {domain : Domain}
      {targets : List Target} {broker : Option Address} :
      situation.config.validity.accepts situation.language .accountName name = .ok true →
      targets.length ≤ situation.config.targetsMax.toNat →
      AccountGuard.checkTargets situation.language situation.config.validity [] targets = .ok () →
      records.domain? domainName = some domain →
      Succeeds situation records action none
        { Account.plain domainName name owner (firstTerm situation domain.domainType) with
          targets := targets, broker := broker }
  | renewed {account : Account} {domain : Domain} :
      action = .account account.domain account.name .renew →
      records.domain? account.domain = some domain →
      Succeeds situation records action (some account) { account with
        validUntil := min (addSeconds account.validUntil domain.accountRenewal) neverExpires }
  | moved {account : Account} {newOwner : Address} {reset : Bool} :
      Succeeds situation records action (some account) (Registry.moved account newOwner reset)
  | certified {account : Account} {certificate : Bytes} :
      1 ≤ certificate.length →
      certificate.length ≤ situation.config.certificateSizeMax.toNat →
      certificate ∉ account.certificates →
      account.certificates.length < situation.config.certificatesMax.toNat →
      Succeeds situation records action (some account) (Registry.certified account certificate)
  | decertified {account : Account} {position : Nat} :
      Succeeds situation records action (some account) (Registry.decertified account position)
  | retargeted {account : Account} {targets : List Target} :
      targets.length ≤ situation.config.targetsMax.toNat →
      AccountGuard.checkTargets situation.language situation.config.validity [] targets = .ok () →
      Succeeds situation records action (some account) { account with targets := targets }
  | described {account : Account} {uri : String} :
      Utf8.size uri ≤ situation.config.metadataSizeMax.toNat →
      Succeeds situation records action (some account) { account with metadataUri := uri }

/-- Whether all records come out of what there was under their names. -/
structure Records.Succeed (situation : Situation Store) (records : Records) (action : Action)
    (later : Records) : Prop where
  domains {name : String} {domain : Domain} :
    later.domain? name = some domain →
      Domain.Succeeds situation (records.domain? name) domain
  accounts {domainName name : String} {account : Account} :
    later.account? domainName name = some account →
      Account.Succeeds situation records action (records.account? domainName name) account

/-- Whether a property of domains and one of accounts hold of all records. -/
structure Records.All (onDomain : Domain → Prop) (onAccount : Account → Prop) (records : Records) :
    Prop where
  domains {name : String} {domain : Domain} :
    records.domain? name = some domain → onDomain domain
  accounts {domain name : String} {account : Account} :
    records.account? domain name = some account → onAccount account

/-- Whether the steps under a configuration keep a property of domains and one of accounts. -/
structure Config.Keeps (language : PatternLanguage) (config : Config) (onDomain : Domain → Prop)
    (onAccount : Account → Prop) : Prop where
  domains {context : Context} {store : Store} {before? : Option Domain} {domain : Domain} :
    Domain.Succeeds ⟨language, config, context, store⟩ before? domain →
      (∀ before ∈ before?, onDomain before) → onDomain domain
  accounts {context : Context} {store : Store} {records : Records} {action : Action}
    {before? : Option Account} {account : Account} :
    Account.Succeeds ⟨language, config, context, store⟩ records action before? account →
      (∀ before ∈ before?, onAccount before) → onAccount account

variable {situation : Situation Store} {records : Records} {signer : Address} {action : Action}
  {change : Change} {onDomain : Domain → Prop} {onAccount : Account → Prop}

theorem Domain.succeeds_setDomain {name name' : String} {found? : Option Domain}
    (hstep : ∀ domain ∈ found?, Succeeds situation (records.domain? name') domain)
    {domain : Domain} (hafter : (records.setDomain name' found?).domain? name = some domain) :
    Succeeds situation (records.domain? name) domain := by
  rw [Records.domain?_setDomain] at hafter
  split at hafter
  · subst name
    exact hstep domain hafter
  · rw [hafter]
    exact .kept

theorem Domain.succeeds_setDomain_some {name name' : String} {before? : Option Domain}
    {domain after : Domain} (hbefore : records.domain? name' = before?)
    (hstep : Succeeds situation before? after)
    (hafter : (records.setDomain name' (some after)).domain? name = some domain) :
    Succeeds situation (records.domain? name) domain := by
  refine succeeds_setDomain (fun domain' hdomain' => ?_) hafter
  obtain rfl := Option.some.inj hdomain'
  rwa [hbefore]

theorem Account.succeeds_setAccount {domain domain' name name' : String} {found? : Option Account}
    (hstep : ∀ account ∈ found?,
      Succeeds situation records action (records.account? domain' name') account)
    {account : Account}
    (hafter : (records.setAccount domain' name' found?).account? domain name = some account) :
    Succeeds situation records action (records.account? domain name) account := by
  rw [Records.account?_setAccount] at hafter
  split at hafter
  · rename_i hnames
    obtain ⟨rfl, rfl⟩ := hnames
    exact hstep account hafter
  · rw [hafter]
    exact .kept

theorem Account.succeeds_setAccount_some {domain domain' name name' : String}
    {before? : Option Account} {account after : Account}
    (hbefore : records.account? domain' name' = before?)
    (hstep : Succeeds situation records action before? after)
    (hafter : (records.setAccount domain' name' (some after)).account? domain name =
      some account) :
    Succeeds situation records action (records.account? domain name) account := by
  refine succeeds_setAccount (fun account' haccount' => ?_) hafter
  obtain rfl := Option.some.inj haccount'
  rwa [hbefore]

theorem Account.succeeds_changeAccounts {domain domain' name : String}
    {step : String → Option Account → Option Account}
    (hstep : ∀ name, ∀ account ∈ step name (records.account? domain' name),
      Succeeds situation records action (records.account? domain' name) account)
    {account : Account}
    (hafter : (records.changeAccounts domain' step).account? domain name = some account) :
    Succeeds situation records action (records.account? domain name) account := by
  rw [Records.account?_changeAccounts] at hafter
  split at hafter
  · subst domain'
    exact hstep name account hafter
  · rw [hafter]
    exact .kept

theorem Account.succeeds_settled {found? : Option Account} {owner newOwner : Address}
    {flag : TransferFlag} {account : Account}
    (hafter : Change.settled owner newOwner flag found? = some account) :
    Succeeds situation records action found? account := by
  cases flag with
  | flush => cases hafter
  | owned =>
      obtain ⟨before, rfl, rfl⟩ := Option.map_eq_some_iff.mp hafter
      rw [Change.passedOn]
      split
      · exact .moved
      · exact .kept
  | leave =>
      rw [Change.settled] at hafter
      rw [hafter]
      exact .kept

namespace Decision.Granted

theorem succeeds_domain (h : Granted situation records signer action change)
    (hsound : records.Sound) {name : String} {domain : Domain}
    (hafter : (change.onRecords records).domain? name = some domain) :
    Domain.Succeeds situation (records.domain? name) domain := by
  cases h with
  | registerDomain _ hnew hname =>
      exact Domain.succeeds_setDomain_some hnew (.registered hname) hafter
  | renewDomain hfound =>
      obtain ⟨rfl, _⟩ := hsound.domains hfound
      exact Domain.succeeds_setDomain_some hfound .renewed hafter
  | deleteDomain => exact Domain.succeeds_setDomain (by simp) hafter
  | transferDomain _ hfound =>
      obtain ⟨rfl, _⟩ := hsound.domains hfound
      exact Domain.succeeds_setDomain_some hfound .transferred hafter
  | _ =>
      change records.domain? name = some domain at hafter
      rw [hafter]
      exact .kept

theorem succeeds_account (h : Granted situation records signer action change)
    (hsound : records.Sound) (hlinked : records.Linked) {domainName name : String}
    {account : Account}
    (hafter : (change.onRecords records).account? domainName name = some account) :
    Account.Succeeds situation records action (records.account? domainName name) account := by
  cases h with
  | @registerDomain name' domainType broker _ hnew =>
      -- As there is no domain yet, there is no root account either.
      have hnone : records.account? name' "" = none := by
        cases hfound : records.account? name' "" with
        | none => rfl
        | some root =>
            obtain ⟨parent, hparent⟩ := hlinked.parent hfound
            cases hnew.symm.trans hparent
      exact Account.succeeds_setAccount_some hnone .root hafter
  | renewDomain =>
      change records.account? domainName name = some account at hafter
      rw [hafter]
      exact .kept
  | @deleteDomain name' =>
      change (records.changeAccounts name' fun _ _ => none).account? domainName name = _ at hafter
      exact Account.succeeds_changeAccounts (by simp) hafter
  | @transferDomain name' domain newAdmin flag =>
      change (records.changeAccounts domain.name fun name found =>
        if name = "" then found.map (Registry.moved · newAdmin true)
        else Change.settled domain.admin newAdmin flag found).account? domainName name = _ at hafter
      refine Account.succeeds_changeAccounts (fun name account haccount => ?_) hafter
      split at haccount
      · obtain ⟨before, hbefore, rfl⟩ := Option.map_eq_some_iff.mp haccount
        rw [hbefore]
        exact .moved
      · exact Account.succeeds_settled haccount
  | flushDomain =>
      refine Account.succeeds_changeAccounts (fun name account haccount => ?_) hafter
      split at haccount
      · cases haccount
      · rw [haccount]
        exact .kept
  | registerAccount _ hfound _ _ hnew hname hcount htargets =>
      exact Account.succeeds_setAccount_some hnew (.registered hname hcount htargets hfound) hafter
  | renewAccount hdomain hfound =>
      obtain ⟨rfl, rfl, _⟩ := hsound.accounts hfound
      exact Account.succeeds_setAccount_some hfound (.renewed rfl hdomain) hafter
  | deleteAccount => exact Account.succeeds_setAccount (by simp) hafter
  | transferAccount _ _ _ hfound =>
      obtain ⟨rfl, rfl, _⟩ := hsound.accounts hfound
      exact Account.succeeds_setAccount_some hfound .moved hafter
  | addCertificate hfound _ _ hsome hsize hnew hcount =>
      exact Account.succeeds_setAccount_some hfound (.certified hsome hsize hnew hcount) hafter
  | deleteCertificate hfound =>
      exact Account.succeeds_setAccount_some hfound .decertified hafter
  | replaceTargets _ hfound _ hcount htargets =>
      obtain ⟨rfl, rfl, _⟩ := hsound.accounts hfound
      exact Account.succeeds_setAccount_some hfound (.retargeted hcount htargets) hafter
  | replaceMetadata hfound _ _ hsize =>
      exact Account.succeeds_setAccount_some hfound (.described hsize) hafter

theorem succeed (h : Granted situation records signer action change) (hsound : records.Sound)
    (hlinked : records.Linked) : records.Succeed situation action (change.onRecords records) :=
  ⟨h.succeeds_domain hsound, h.succeeds_account hsound hlinked⟩

end Decision.Granted

theorem Environment.deliver_succeed {store : Store} (h : Consistent store records)
    (environment : Environment) (context : Context) {message : Message}
    (hmessage : message.action.Fits) :
    ∃ later, Consistent (environment.deliver context message store).store later ∧
      records.Succeed (environment.situation context store) message.action later := by
  rcases Environment.deliver_cases h hmessage environment context with
    ⟨change, hgranted, hafter⟩ | ⟨_, hsame⟩
  · exact ⟨change.onRecords records, hafter, hgranted.succeed h.sound h.linked⟩
  · rw [hsame]
    exact ⟨records, h, fun hdomain => hdomain ▸ .kept, fun haccount => haccount ▸ .kept⟩

theorem Records.Succeed.all {later : Records} (h : records.Succeed situation action later)
    (hkeeps : situation.config.Keeps situation.language onDomain onAccount)
    (hall : records.All onDomain onAccount) : later.All onDomain onAccount where
  domains hafter := hkeeps.domains (h.domains hafter) fun _ => hall.domains
  accounts hafter := hkeeps.accounts (h.accounts hafter) fun _ => hall.accounts

/-- What the steps under a configuration keep holds of all records where deliveries under it
lead. -/
theorem Delivered.exists_records {language : PatternLanguage} {config : Config}
    (hkeeps : config.Keeps language onDomain onAccount) {store : Store}
    (h : Delivered language config store) :
    ∃ records, Consistent store records ∧ records.All onDomain onAccount := by
  induction h with
  | empty =>
      exact ⟨Records.empty, ⟨holds_empty, Records.Sound.empty, nofun, nofun⟩, nofun, nofun⟩
  | @deliver store _ environment context message _ hfixed hmessage ih =>
      obtain ⟨records, hconsistent, hall⟩ := ih
      obtain ⟨later, hafter, hsucceed⟩ :=
        Environment.deliver_succeed hconsistent environment context hmessage
      rw [Environment.situation_of_fixed hfixed] at hsucceed
      exact ⟨later, hafter, hsucceed.all hkeeps hall⟩

end NameRegistry
