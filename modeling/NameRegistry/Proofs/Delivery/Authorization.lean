import NameRegistry.Proofs.Delivery.Reachable

namespace NameRegistry

/-- The time after which anyone may delete a domain is never held at the end of the range of times
in a way that shows: blocks are far from it. -/
theorem isAfter_reclaimableAfter_iff {config : Config} {context : Context} {domain : Domain}
    (hvalid : domain.Valid) :
    context.isAfter (DomainGuard.reclaimableAfter config domain) = true ↔
      context.Passed (domain.validUntil.toInt + config.domainGrace.seconds.toNat) := by
  have hleast := hvalid.validUntil
  obtain ⟨_, hgreatest⟩ := context.in_calendar
  rw [Context.isAfter_iff, DomainGuard.reclaimableAfter, toInt_addSeconds, toInt_wholeSeconds,
    clamped, Context.Passed, Context.Passed]
  omega

namespace Decision.Granted

variable {situation : Situation Store} {records : Records} {signer : Address} {action : Action}
  {change : Change}

theorem admin_kept (h : Granted situation records signer action change) (hsound : records.Sound)
    {name : String} {before after : Domain} (hbefore : records.domain? name = some before)
    (hafter : (change.onRecords records).domain? name = some after)
    (hadmin : after.admin ≠ before.admin) :
    before.domainType = .closed ∧ ¬ situation.context.Passed before.validUntil.toInt ∧
      signer = before.admin := by
  have hnames := @hsound.domains
  cases h with
  | @transferDomain name' domain newAdmin flag _ hfound htype hsigner hexpired =>
      have hsame : domain = before := by grind [Change.onRecords]
      subst hsame
      rw [Domain.isExpired, ← Bool.not_eq_true, Context.isAfter_iff] at hexpired
      exact ⟨htype, hexpired, hsigner.symm⟩
  | _ => grind [Change.onRecords, newDomain]

theorem domain_kept (h : Granted situation records signer action change) (hsound : records.Sound)
    {name : String} {before : Domain} (hbefore : records.domain? name = some before)
    (hafter : (change.onRecords records).domain? name = none) :
    before.domainType = .closed ∧ (signer = before.admin ∨ situation.context.Passed
      (before.validUntil.toInt + situation.config.domainGrace.seconds.toNat)) := by
  have hnames := @hsound.domains
  cases h with
  | @deleteDomain name' domain hfound htype hallowed =>
      have hsame : domain = before := by grind [Change.onRecords]
      subst hsame
      refine ⟨htype, hallowed.imp Eq.symm fun hgrace => ?_⟩
      exact (isAfter_reclaimableAfter_iff (hsound.domains hfound).2).mp hgrace
  | _ => grind [Change.onRecords]

theorem owner_kept (h : Granted situation records signer action change) (hsound : records.Sound)
    (hlinked : records.Linked) {domainName name : String} {before after : Account}
    (hbefore : records.account? domainName name = some before)
    (hafter : (change.onRecords records).account? domainName name = some after)
    (howner : after.owner ≠ before.owner) :
    ∃ domain, records.domain? domainName = some domain ∧
      (domain.domainType = .closed ∧ signer = domain.admin ∨
        domain.domainType = .opened ∧ signer = before.owner) := by
  have hnames := @hsound.domains
  have hnames' := @hsound.accounts
  cases h with
  | @registerDomain name' =>
      -- The root account is new, as an account has its domain.
      have hnew := hlinked.parent hbefore
      grind [Change.onRecords, newDomain, rootAccount, Account.plain]
  | @transferDomain name' domain newAdmin flag _ hfound htype hsigner =>
      have hdomain : name' = domainName := by grind [Change.onRecords]
      subst hdomain
      exact ⟨domain, hfound, Or.inl ⟨htype, hsigner.symm⟩⟩
  | @transferAccount domainName' name' domain account newOwner reset _ hfound _ haccount _
      hallowed =>
      obtain ⟨rfl, rfl, rfl⟩ : domainName' = domainName ∧ name' = name ∧ account = before := by
        grind [Change.onRecords]
      refine ⟨domain, hfound, ?_⟩
      rw [AccountGuard.mayTransfer] at hallowed
      split at hallowed
      · exact Or.inl ⟨‹_›, (of_decide_eq_true hallowed).symm⟩
      · exact Or.inr ⟨‹_›, (of_decide_eq_true hallowed).symm⟩
  | _ => grind [Change.onRecords, Account.plain]

theorem content_kept (h : Granted situation records signer action change) (hsound : records.Sound)
    (hlinked : records.Linked) {domainName name : String} {before after : Account}
    (hbefore : records.account? domainName name = some before)
    (hafter : (change.onRecords records).account? domainName name = some after)
    (hcontent : after.targets ≠ before.targets ∨ after.certificates ≠ before.certificates ∨
      after.metadataUri ≠ before.metadataUri) :
    signer = before.owner ∨ ∃ domain, records.domain? domainName = some domain ∧
      domain.domainType = .closed ∧ signer = domain.admin := by
  have hnames := @hsound.domains
  have hnames' := @hsound.accounts
  cases h with
  | @registerDomain name' =>
      have hnew := hlinked.parent hbefore
      grind [Change.onRecords, newDomain, rootAccount, Account.plain]
  | @transferDomain name' domain newAdmin flag _ hfound htype hsigner =>
      have hdomain : name' = domainName := by grind [Change.onRecords]
      subst hdomain
      exact Or.inr ⟨domain, hfound, htype, hsigner.symm⟩
  | @transferAccount domainName' name' domain account newOwner reset _ hfound _ haccount _
      hallowed =>
      obtain ⟨rfl, rfl, rfl⟩ : domainName' = domainName ∧ name' = name ∧ account = before := by
        grind [Change.onRecords]
      rw [AccountGuard.mayTransfer] at hallowed
      split at hallowed
      · exact Or.inr ⟨domain, hfound, ‹_›, (of_decide_eq_true hallowed).symm⟩
      · exact Or.inl (of_decide_eq_true hallowed).symm
  | _ => grind [Change.onRecords, Account.plain]

theorem account_kept (h : Granted situation records signer action change) (hsound : records.Sound)
    {domainName name : String} {before : Account}
    (hbefore : records.account? domainName name = some before)
    (hafter : (change.onRecords records).account? domainName name = none)
    {domain : Domain} (hdomain : (change.onRecords records).domain? domainName = some domain) :
    name ≠ "" ∧ (signer = before.owner ∨
      ∃ domain, records.domain? domainName = some domain ∧ signer = domain.admin) := by
  have hnames := @hsound.domains
  cases h with
  | @transferDomain name' parent newAdmin flag _ hfound _ hsigner =>
      obtain ⟨rfl, hname⟩ : name' = domainName ∧ name ≠ "" := by grind [Change.onRecords]
      exact ⟨hname, Or.inr ⟨parent, hfound, hsigner.symm⟩⟩
  | @flushDomain name' parent hfound _ hsigner =>
      obtain ⟨rfl, hname⟩ : name' = domainName ∧ name ≠ "" := by grind [Change.onRecords]
      exact ⟨hname, Or.inr ⟨parent, hfound, hsigner.symm⟩⟩
  | @deleteAccount domainName' name' parent account hfound hname haccount hallowed =>
      obtain ⟨rfl, rfl, rfl⟩ : domainName' = domainName ∧ name' = name ∧ account = before := by
        grind [Change.onRecords]
      exact ⟨hname, hallowed.imp Eq.symm fun hadmin => ⟨parent, hfound, hadmin.symm⟩⟩
  | _ => grind [Change.onRecords]

theorem account_new (h : Granted situation records signer action change) (hsound : records.Sound)
    {domainName name : String} {after : Account}
    (hbefore : records.account? domainName name = none)
    (hafter : (change.onRecords records).account? domainName name = some after)
    (hname : name ≠ "") :
    ∃ domain, records.domain? domainName = some domain ∧
      (change.onRecords records).domain? domainName = some domain ∧
        (domain.domainType = .closed → signer = domain.admin) := by
  have hnames := @hsound.accounts
  cases h with
  | @registerAccount domainName' name' domain owner targets broker _ hfound _ hallowed =>
      have hdomain : domainName' = domainName := by
        grind [Change.onRecords, Account.plain]
      subst hdomain
      exact ⟨domain, hfound, hfound, fun htype => (hallowed htype).symm⟩
  | _ => grind [Change.onRecords, rootAccount, Account.plain, Change.settled_none]

end Decision.Granted

open Registry in
/-- Whether what has changed between two stores is what a signer may change at a block. -/
structure Authorized (config : Config) (context : Context) (signer : Address)
    (store after : Store) : Prop where
  /-- A domain is handed over by its administrator, if it is closed and has not expired. -/
  admin {name : String} {before later : Domain} :
    domain? store name = .ok (some before) → domain? after name = .ok (some later) →
      later.admin ≠ before.admin →
        before.domainType = .closed ∧ ¬ context.Passed before.validUntil.toInt ∧
          signer = before.admin
  /-- A closed domain is deleted by its administrator, or by anyone when it has ended and the grace
  after it has passed. -/
  removal {name : String} {before : Domain} :
    domain? store name = .ok (some before) → domain? after name = .ok none →
      before.domainType = .closed ∧ (signer = before.admin ∨
        context.Passed (before.validUntil.toInt + config.domainGrace.seconds.toNat))
  /-- An account is passed on by the administrator of its closed domain, or by its owner in an
  opened one. -/
  owner {domainName name : String} {before later : Account} :
    account? store domainName name = .ok (some before) →
      account? after domainName name = .ok (some later) → later.owner ≠ before.owner →
        ∃ domain, domain? store before.domain = .ok (some domain) ∧
          (domain.domainType = .closed ∧ signer = domain.admin ∨
            domain.domainType = .opened ∧ signer = before.owner)
  /-- What is in an account is changed by its owner or the administrator of its closed domain. -/
  content {domainName name : String} {before later : Account} :
    account? store domainName name = .ok (some before) →
      account? after domainName name = .ok (some later) →
        later.targets ≠ before.targets ∨ later.certificates ≠ before.certificates ∨
          later.metadataUri ≠ before.metadataUri →
            signer = before.owner ∨ ∃ domain, domain? store before.domain = .ok (some domain) ∧
              domain.domainType = .closed ∧ signer = domain.admin
  /-- In a domain that stays, an account with a name is deleted by its owner or the administrator
  of the domain. -/
  loss {domainName name : String} {before : Account} {domain : Domain} :
    account? store domainName name = .ok (some before) →
      account? after domainName name = .ok none →
        domain? after before.domain = .ok (some domain) →
          before.name ≠ "" ∧ (signer = before.owner ∨
            ∃ domain, domain? store before.domain = .ok (some domain) ∧ signer = domain.admin)
  /-- An account with a name is registered in a domain that is there and stays as it is, in a
  closed one by its administrator. -/
  arrival {domainName name : String} {later : Account} :
    account? store domainName name = .ok none →
      account? after domainName name = .ok (some later) → later.name ≠ "" →
        ∃ domain, domain? store later.domain = .ok (some domain) ∧
          domain? after later.domain = .ok (some domain) ∧
            (domain.domainType = .closed → signer = domain.admin)

theorem authorized_of_granted {situation : Situation Store} {after : Store} {records : Records}
    {signer : Address} {action : Action} {change : Change}
    (h : Consistent situation.store records)
    (hgranted : Decision.Granted situation records signer action change)
    (hafter : Consistent after (change.onRecords records)) :
    Authorized situation.config situation.context signer situation.store after := by
  have hdomain? := h.holds.domain?_eq h.sound
  have hdomain?' := hafter.holds.domain?_eq hafter.sound
  -- Names that hold separators stand for the same plain names before and after.
  have haccount? (domainName name : String) : ∃ domainName' name',
      Registry.account? situation.store domainName name =
        .ok (records.account? domainName' name') ∧
      Registry.account? after domainName name =
        .ok ((change.onRecords records).account? domainName' name') := by
    obtain ⟨domainName', name', hfind⟩ := Registry.exists_account?_eq domainName name
    exact ⟨domainName', name', hfind h, hfind hafter⟩
  constructor
  · intro name before later hbefore hlater hadmin
    rw [hdomain?] at hbefore
    rw [hdomain?'] at hlater
    exact hgranted.admin_kept h.sound (Except.ok.inj hbefore) (Except.ok.inj hlater) hadmin
  · intro name before hbefore hlater
    rw [hdomain?] at hbefore
    rw [hdomain?'] at hlater
    exact hgranted.domain_kept h.sound (Except.ok.inj hbefore) (Except.ok.inj hlater)
  · intro domainName name before later hbefore hlater howner
    obtain ⟨domainName', name', heq, heq'⟩ := haccount? domainName name
    rw [heq] at hbefore
    rw [heq'] at hlater
    obtain ⟨domain, hdomain, hallowed⟩ := hgranted.owner_kept h.sound h.linked
      (Except.ok.inj hbefore) (Except.ok.inj hlater) howner
    obtain ⟨rfl, rfl, _⟩ := h.sound.accounts (Except.ok.inj hbefore)
    exact ⟨domain, by rw [hdomain?, hdomain], hallowed⟩
  · intro domainName name before later hbefore hlater hcontent
    obtain ⟨domainName', name', heq, heq'⟩ := haccount? domainName name
    rw [heq] at hbefore
    rw [heq'] at hlater
    have hallowed := hgranted.content_kept h.sound h.linked
      (Except.ok.inj hbefore) (Except.ok.inj hlater) hcontent
    obtain ⟨rfl, rfl, _⟩ := h.sound.accounts (Except.ok.inj hbefore)
    refine hallowed.imp id fun ⟨domain, hdomain, hclosed⟩ => ?_
    exact ⟨domain, by rw [hdomain?, hdomain], hclosed⟩
  · intro domainName name before domain hbefore hlater hdomain
    obtain ⟨domainName', name', heq, heq'⟩ := haccount? domainName name
    rw [heq] at hbefore
    rw [heq'] at hlater
    rw [hdomain?'] at hdomain
    obtain ⟨rfl, rfl, _⟩ := h.sound.accounts (Except.ok.inj hbefore)
    obtain ⟨hname, hallowed⟩ := hgranted.account_kept h.sound
      (Except.ok.inj hbefore) (Except.ok.inj hlater) (Except.ok.inj hdomain)
    refine ⟨hname, hallowed.imp id fun ⟨domain, hdomain, hadmin⟩ => ?_⟩
    exact ⟨domain, by rw [hdomain?, hdomain], hadmin⟩
  · intro domainName name later hbefore hlater hname
    obtain ⟨domainName', name', heq, heq'⟩ := haccount? domainName name
    rw [heq] at hbefore
    rw [heq'] at hlater
    obtain ⟨rfl, rfl, _⟩ := hafter.sound.accounts (Except.ok.inj hlater)
    obtain ⟨domain, hdomain, hdomain', hadmin⟩ := hgranted.account_new h.sound
      (Except.ok.inj hbefore) (Except.ok.inj hlater) hname
    exact ⟨domain, by rw [hdomain?, hdomain], by rw [hdomain?', hdomain'], hadmin⟩

/-- What a message changes, when it goes through, its signer may change. -/
theorem Reachable.authorized {store : Store} (h : Reachable store) (environment : Environment)
    (context : Context) (message : Message) (hmessage : message.action.Fits)
    (hresult : (environment.deliver context message store).result = .ok ()) :
    Authorized (environment.configuration context) context message.signer store
      (environment.deliver context message store).store := by
  obtain ⟨records, hconsistent⟩ := h.consistent
  rcases Environment.deliver_cases hconsistent hmessage environment context with
    ⟨change, hgranted, hafter⟩ | ⟨hfails, _⟩
  · exact authorized_of_granted hconsistent hgranted hafter
  · exact absurd hresult hfails

/-- Alice hands her domain over to Bob. -/
theorem authorized_sample_transfer :
    let message : Message := ⟨Sample.alice, none, .domain "bank" (.transfer Sample.bob .flush)⟩
    let delivered := Sample.ledger.deliver (Sample.block 200) message Sample.store
    delivered.result = .ok () ∧ Authorized Config.testing (Sample.block 200) Sample.alice
      Sample.store delivered.store :=
  have hresult : (Sample.ledger.deliver (Sample.block 200)
      ⟨Sample.alice, none, .domain "bank" (.transfer Sample.bob .flush)⟩
        Sample.store).result = .ok () := by decide +kernel
  ⟨hresult, Reachable.authorized Sample.reachable_store Sample.ledger (Sample.block 200)
    ⟨Sample.alice, none, .domain "bank" (.transfer Sample.bob .flush)⟩ (by decide) hresult⟩

end NameRegistry
