import NameRegistry.Proofs.Delivery.Expiry
import NameRegistry.Proofs.Delivery.Tenure

namespace NameRegistry

open Decision

/-- Whether an account with a name may end at a time, in a domain of a type. -/
def DomainType.Admits : DomainType → Int64 → Prop
  | .closed, validUntil => validUntil = neverExpires
  | .opened, validUntil => validUntil ≤ neverExpires

theorem DomainType.admits_firstTerm (situation : Situation Store) (domainType : DomainType) :
    domainType.Admits (firstTerm situation domainType) := by
  cases domainType with
  | closed => rfl
  | opened => exact firstTerm_le

theorem DomainType.Admits.renewed {domainType : DomainType} {validUntil period : Int64}
    (h : domainType.Admits validUntil) (hperiod : 0 ≤ period.toInt) :
    domainType.Admits (min (addSeconds validUntil period) neverExpires) := by
  cases domainType with
  | closed =>
      obtain rfl := h
      have hextended := le_addSeconds (a := neverExpires) hperiod
      change _ = neverExpires
      rw [← Int64.toInt_inj, toInt_min]
      omega
  | opened => exact min_le_neverExpires _

/-- Whether all accounts with names end as the types of their domains admit. -/
structure Records.InTerm (records : Records) : Prop where
  periods {name : String} {domain : Domain} :
    records.domain? name = some domain → 0 ≤ domain.accountRenewal.toInt
  accounts {domainName name : String} {domain : Domain} {account : Account} :
    records.domain? domainName = some domain →
      records.account? domainName name = some account → account.name ≠ "" →
        domain.domainType.Admits account.validUntil

section Steps

variable {situation : Situation Store} {records later : Records} {action : Action}

theorem Records.Succeed.exists_domain (h : records.Succeed situation action later)
    (hlinked : records.Linked) {domainName name : String} {account : Account}
    (hafter : later.account? domainName name = some account) (hdomain : account.domain = domainName)
    (hname : account.name ≠ "") : ∃ domain, records.domain? domainName = some domain := by
  have hstep := h.accounts hafter
  cases hbefore : records.account? domainName name with
  | some before => exact hlinked.parent hbefore
  | none =>
      rw [hbefore] at hstep
      cases hstep with
      | root => exact absurd rfl hname
      | @registered _ _ _ domain _ _ _ _ _ hfound => exact ⟨domain, hdomain ▸ hfound⟩

theorem Account.Succeeds.admitted {before? : Option Account} {account : Account}
    (h : Account.Succeeds situation records action before? account) (hname : account.name ≠ "")
    {domain : Domain} (hdomain : records.domain? account.domain = some domain)
    (hperiod : 0 ≤ domain.accountRenewal.toInt)
    (hbefore : ∀ before ∈ before?, before.name ≠ "" →
      domain.domainType.Admits before.validUntil) :
    domain.domainType.Admits account.validUntil := by
  cases h with
  | root => exact absurd rfl hname
  | registered _ _ _ hfound =>
      obtain rfl := Option.some.inj (hfound.symm.trans hdomain)
      exact DomainType.admits_firstTerm situation _
  | renewed _ hfound =>
      obtain rfl := Option.some.inj (hfound.symm.trans hdomain)
      exact (hbefore _ rfl hname).renewed hperiod
  | moved =>
      rw [Registry.moved_name] at hname
      rw [Registry.moved_validUntil]
      exact hbefore _ rfl hname
  | _ =>
      have hadmits := hbefore _ rfl
      exact hadmits hname

theorem Records.Succeed.inTerm (h : records.Succeed situation action later)
    (hlinked : records.Linked) (hsound : later.Sound) (hterm : records.InTerm) :
    later.InTerm where
  periods hdomain :=
    (situation.config.keeps_ends situation.language).domains (h.domains hdomain)
      fun _ => hterm.periods
  accounts {domainName name domain account} hdomain haccount hname := by
    obtain ⟨rfl, _⟩ := hsound.accounts haccount
    obtain ⟨earlier, hearlier⟩ := h.exists_domain hlinked haccount rfl hname
    rw [(h.domain_continues hearlier hdomain).domainType]
    exact (h.accounts haccount).admitted hname hearlier (hterm.periods hearlier)
      fun _ => hterm.accounts hearlier

end Steps

theorem Reachable.exists_inTerm {store : Store} (h : Reachable store) :
    ∃ records, Consistent store records ∧ records.InTerm := by
  induction h with
  | empty =>
      exact ⟨Records.empty, ⟨holds_empty, Records.Sound.empty, nofun, nofun⟩, nofun, nofun⟩
  | deliver environment context message _ hmessage ih =>
      obtain ⟨records, hconsistent, hterm⟩ := ih
      obtain ⟨later, hafter, hsucceed⟩ :=
        Environment.deliver_succeed hconsistent environment context hmessage
      exact ⟨later, hafter, hsucceed.inTerm hconsistent.linked hafter.sound hterm⟩

/-- Every account with a name has its domain. If that is closed the account never expires, and if it
is opened the account ends by the end of the year 9999. -/
theorem Reachable.account_terms {store : Store} (h : Reachable store) {domainName name : String}
    {account : Account} (hfound : Registry.account? store domainName name = .ok (some account))
    (hname : account.name ≠ "") :
    ∃ domain, Registry.domain? store account.domain = .ok (some domain) ∧
      (domain.domainType = .closed → account.validUntil = neverExpires) ∧
      (domain.domainType = .opened → account.validUntil ≤ neverExpires) := by
  obtain ⟨records, hconsistent, hterm⟩ := h.exists_inTerm
  obtain ⟨domainName', name', hfind⟩ := Registry.exists_account?_eq domainName name
  rw [hfind hconsistent] at hfound
  have haccount := Except.ok.inj hfound
  obtain ⟨rfl, _⟩ := hconsistent.sound.accounts haccount
  obtain ⟨domain, hdomain⟩ := hconsistent.linked.parent haccount
  have hadmits := hterm.accounts hdomain haccount hname
  refine ⟨domain, ?_, fun htype => ?_, fun htype => ?_⟩
  · rw [hconsistent.holds.domain?_eq hconsistent.sound, hdomain]
  · rwa [htype] at hadmits
  · rwa [htype] at hadmits

namespace Sample

def deleteBank : Message := ⟨alice, none, .domain "bank" .delete⟩

def reopenBank : Message := ⟨alice, none, .domain "bank" (.register .opened none)⟩

def renewTeller : Message := ⟨bob, none, .account "bank" "teller" .renew⟩

/-- The store with Alice's domain registered again as an opened one, and with Bob's account. -/
def reopenedStore : Store :=
  deliverAll (block 200) [deleteBank, reopenBank, registerTeller, renewTeller] store

theorem reachable_reopenedStore : Reachable reopenedStore :=
  reachable_deliverAll (block 200) reachable_store (by decide)

/-- Bob's account, with the certificates that it has been given. -/
def tellerUntil (validUntil : Int64) (certificates : List Bytes) : Account :=
  ⟨"bank", "teller", bob, validUntil, [⟨"iov", "abc"⟩], certificates, none, ""⟩

def bankUntil (validUntil : Int64) (domainType : DomainType) : Domain :=
  ⟨"bank", alice, validUntil, domainType, 500, none⟩

end Sample

/-- Bob's account never expires in the closed domain, and does so in the opened one that is
registered in its place, also when it has been renewed. -/
theorem terms_sample :
    ∃ validUntil validUntil', Registry.account? Sample.store "bank" "teller" =
        .ok (some (Sample.tellerUntil validUntil [[1, 2, 3]])) ∧ validUntil = neverExpires ∧
      Registry.account? Sample.reopenedStore "bank" "teller" =
        .ok (some (Sample.tellerUntil validUntil' [])) ∧ validUntil' ≤ neverExpires := by
  have hclosed : Registry.account? Sample.store "bank" "teller" =
      .ok (some (Sample.tellerUntil 253402300799 [[1, 2, 3]])) := by decide +kernel
  have hopened : Registry.account? Sample.reopenedStore "bank" "teller" =
      .ok (some (Sample.tellerUntil 1200 [])) := by decide +kernel
  have hbank : Registry.domain? Sample.store "bank" =
      .ok (some (Sample.bankUntil 1100 .closed)) := by decide +kernel
  have hbank' : Registry.domain? Sample.reopenedStore "bank" =
      .ok (some (Sample.bankUntil 1200 .opened)) := by decide +kernel
  obtain ⟨domain, hdomain, hnever, _⟩ :=
    Reachable.account_terms Sample.reachable_store hclosed (by decide)
  obtain ⟨domain', hdomain', _, hcapped⟩ :=
    Reachable.account_terms Sample.reachable_reopenedStore hopened (by decide)
  obtain rfl := Option.some.inj (Except.ok.inj (hbank.symm.trans hdomain))
  obtain rfl := Option.some.inj (Except.ok.inj (hbank'.symm.trans hdomain'))
  exact ⟨_, _, hclosed, hnever rfl, hopened, hcapped rfl⟩

end NameRegistry
