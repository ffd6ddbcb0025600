import NameRegistry.Proofs.Delivery.Authorization
import NameRegistry.Proofs.Delivery.Succession

namespace NameRegistry

/-- Where deliveries lead from a store, each with an environment and a block of its own, while
something holds of every store that they leave. -/
inductive Leads (during : Store → Prop) (store : Store) : Store → Prop
  | start : Leads during store store
  | deliver {after : Store} (environment : Environment) (context : Context) (message : Message) :
      Leads during store after → message.action.Fits →
      during (environment.deliver context message after).store →
      Leads during store (environment.deliver context message after).store

/-- Whether a domain is the same as before in what its registration fixes. -/
structure Domain.Continues (domain later : Domain) : Prop where
  name : later.name = domain.name
  domainType : later.domainType = domain.domainType
  accountRenewal : later.accountRenewal = domain.accountRenewal
  broker : later.broker = domain.broker

/-- Whether an account is the same as before in what its registration fixes. -/
structure Account.Continues (account later : Account) : Prop where
  domain : later.domain = account.domain
  name : later.name = account.name
  broker : later.broker = account.broker

section Steps

variable {situation : Situation Store} {records later : Records} {signer : Address}
  {action : Action} {change : Change}

theorem Domain.Continues.trans {domain middle later : Domain} (h : domain.Continues middle)
    (h' : middle.Continues later) : domain.Continues later :=
  ⟨h'.name.trans h.name, h'.domainType.trans h.domainType,
    h'.accountRenewal.trans h.accountRenewal, h'.broker.trans h.broker⟩

theorem Account.Continues.trans {account middle later : Account} (h : account.Continues middle)
    (h' : middle.Continues later) : account.Continues later :=
  ⟨h'.domain.trans h.domain, h'.name.trans h.name, h'.broker.trans h.broker⟩

theorem Domain.Succeeds.continues {before after : Domain}
    (h : Domain.Succeeds situation (some before) after) : before.Continues after := by
  cases h <;> exact ⟨rfl, rfl, rfl, rfl⟩

theorem Account.Succeeds.continues {before after : Account}
    (h : Account.Succeeds situation records action (some before) after) :
    before.Continues after := by
  cases h with
  | moved =>
      exact ⟨Registry.moved_domain _ _ _, Registry.moved_name _ _ _, Registry.moved_broker _ _ _⟩
  | _ => exact ⟨rfl, rfl, rfl⟩

theorem Records.Succeed.domain_continues (h : records.Succeed situation action later)
    {name : String} {before after : Domain} (hbefore : records.domain? name = some before)
    (hafter : later.domain? name = some after) : before.Continues after := by
  have hstep := h.domains hafter
  rw [hbefore] at hstep
  exact hstep.continues

theorem Records.Succeed.account_continues (h : records.Succeed situation action later)
    {domainName name : String} {before after : Account}
    (hbefore : records.account? domainName name = some before)
    (hafter : later.account? domainName name = some after) : before.Continues after := by
  have hstep := h.accounts hafter
  rw [hbefore] at hstep
  exact hstep.continues

theorem Decision.Granted.opened_stays (h : Granted situation records signer action change)
    (hsound : records.Sound) (hlinked : records.Linked) {name : String} {before : Domain}
    (hbefore : records.domain? name = some before) (htype : before.domainType = .opened) :
    ∃ after, (change.onRecords records).domain? name = some after ∧
      after.domainType = .opened ∧ after.admin = before.admin := by
  have hnotClosed : before.domainType ≠ .closed := by
    rw [htype]
    decide
  cases hafter : (change.onRecords records).domain? name with
  | none => exact absurd (h.domain_kept hsound hbefore hafter).1 hnotClosed
  | some after =>
      have hsame := (h.succeed hsound hlinked).domain_continues hbefore hafter
      refine ⟨after, rfl, hsame.domainType.trans htype, ?_⟩
      by_contra hadmin
      exact hnotClosed (h.admin_kept hsound hbefore hafter hadmin).1

end Steps

namespace Leads

variable {during : Store → Prop} {store after : Store}

theorem reachable (h : Leads during store after) (hreachable : Reachable store) :
    Reachable after := by
  induction h with
  | start => exact hreachable
  | deliver environment context message _ hmessage _ ih =>
      exact ih.deliver environment context message hmessage

/-- As long as a record is there, it keeps every property that each delivery keeps. -/
theorem keeps {ρ : Type} {find : Store → Except Error (Option ρ)} {found? : Records → Option ρ}
    {property : ρ → Prop}
    (hfind : ∀ {store records}, Consistent store records → find store = .ok (found? records))
    (hstep : ∀ {situation records action later}, Records.Succeed situation records action later →
      ∀ {before after}, found? records = some before → found? later = some after →
        property before → property after)
    (h : Leads (find · ≠ .ok none) store after) (hreachable : Reachable store) {record : ρ}
    (hfound : find store = .ok (some record)) (hrecord : property record) :
    ∃ later, find after = .ok (some later) ∧ property later := by
  induction h with
  | start => exact ⟨record, hfound, hrecord⟩
  | deliver environment context message hleads hmessage hthere ih =>
      obtain ⟨before, hbefore, hproperty⟩ := ih
      obtain ⟨records, hconsistent⟩ := (hleads.reachable hreachable).consistent
      obtain ⟨later, hafter, hsucceed⟩ :=
        Environment.deliver_succeed hconsistent environment context hmessage
      rw [hfind hconsistent] at hbefore
      rw [hfind hafter] at hthere ⊢
      cases hlater : found? later with
      | none => exact absurd (congrArg Except.ok hlater) hthere
      | some record' =>
          exact ⟨record', rfl, hstep hsucceed (Except.ok.inj hbefore) hlater hproperty⟩

theorem opened_stays (h : Leads during store after) (hreachable : Reachable store) {name : String}
    {domain : Domain} (hfound : Registry.domain? store name = .ok (some domain))
    (htype : domain.domainType = .opened) :
    ∃ later, Registry.domain? after name = .ok (some later) ∧ later.domainType = .opened ∧
      later.admin = domain.admin := by
  induction h with
  | start => exact ⟨domain, hfound, htype, rfl⟩
  | deliver environment context message hleads hmessage _ ih =>
      obtain ⟨before, hbefore, hopened, hadmin⟩ := ih
      obtain ⟨records, hconsistent⟩ := (hleads.reachable hreachable).consistent
      rcases Environment.deliver_cases hconsistent hmessage environment context with
        ⟨change, hgranted, hafter⟩ | ⟨_, hsame⟩
      · rw [hconsistent.holds.domain?_eq hconsistent.sound] at hbefore
        obtain ⟨later, hlater, hopened', hadmin'⟩ := hgranted.opened_stays hconsistent.sound
          hconsistent.linked (Except.ok.inj hbefore) hopened
        refine ⟨later, ?_, hopened', hadmin'.trans hadmin⟩
        rw [hafter.holds.domain?_eq hafter.sound, hlater]
      · rw [hsame]
        exact ⟨before, hbefore, hopened, hadmin⟩

end Leads

theorem Reachable.exists_root {store : Store} (h : Reachable store) {name : String}
    {domain : Domain} (hfound : Registry.domain? store name = .ok (some domain)) :
    ∃ root, Registry.account? store name "" = .ok (some root) ∧ root.owner = domain.admin := by
  obtain ⟨records, hconsistent⟩ := h.consistent
  rw [hconsistent.holds.domain?_eq hconsistent.sound] at hfound
  obtain ⟨rfl, hvalid⟩ := hconsistent.sound.domains (Except.ok.inj hfound)
  obtain ⟨root, hroot, howner⟩ := hconsistent.linked.root (Except.ok.inj hfound)
  refine ⟨root, ?_, howner⟩
  rw [hconsistent.holds.account?_eq hconsistent.sound hvalid.plain, hroot]

/-- As long as a domain is there, what its registration fixes stays as it is, and so it does for an
account. A domain that was registered as an opened one is always there, with its administrator and
with its root account, which has one owner forever. -/
theorem Reachable.governance_fixed {store : Store} (h : Reachable store) :
    (∀ name domain, Registry.domain? store name = .ok (some domain) →
      ∀ after, Leads (fun store => Registry.domain? store name ≠ .ok none) store after →
        ∃ later, Registry.domain? after name = .ok (some later) ∧ domain.Continues later) ∧
    (∀ domainName name account, Registry.account? store domainName name = .ok (some account) →
      ∀ after,
        Leads (fun store => Registry.account? store domainName name ≠ .ok none) store after →
          ∃ later, Registry.account? after domainName name = .ok (some later) ∧
            account.Continues later) ∧
    ∀ name domain, Registry.domain? store name = .ok (some domain) →
      domain.domainType = .opened → ∀ after, Leads (fun _ => True) store after →
        ∃ later, Registry.domain? after name = .ok (some later) ∧
          later.domainType = .opened ∧ later.admin = domain.admin ∧
            ∃ root root', Registry.account? store name "" = .ok (some root) ∧
              Registry.account? after name "" = .ok (some root') ∧ root'.owner = root.owner := by
  refine ⟨?_, ?_, ?_⟩
  · intro name domain hfound after hleads
    have hfind {store : Store} {records : Records} (hconsistent : Consistent store records) :=
      hconsistent.holds.domain?_eq hconsistent.sound name
    refine hleads.keeps hfind (fun hsucceed _ _ hbefore hafter hsame => ?_) h hfound
      ⟨rfl, rfl, rfl, rfl⟩
    exact hsame.trans (hsucceed.domain_continues hbefore hafter)
  · intro domainName name account hfound after hleads
    obtain ⟨domainName', name', hfind⟩ := Registry.exists_account?_eq domainName name
    refine hleads.keeps hfind (fun hsucceed _ _ hbefore hafter hsame => ?_) h hfound
      ⟨rfl, rfl, rfl⟩
    exact hsame.trans (hsucceed.account_continues hbefore hafter)
  · intro name domain hfound htype after hleads
    obtain ⟨later, hlater, hopened, hadmin⟩ := hleads.opened_stays h hfound htype
    obtain ⟨root, hroot, howner⟩ := h.exists_root hfound
    obtain ⟨root', hroot', howner'⟩ := (hleads.reachable h).exists_root hlater
    refine ⟨later, hlater, hopened, hadmin, root, root', hroot, hroot', ?_⟩
    rw [howner', hadmin, howner]

namespace Sample

/-- Alice registers an opened domain. -/
def registerMarket : Message := ⟨alice, none, .domain "market" (.register .opened none)⟩

/-- Bob registers an account in it. -/
def registerStall : Message := ⟨bob, none, .account "market" "stall" (.register bob [] none)⟩

def marketStore : Store := deliverAll (block 100) [registerMarket, registerStall] ∅

theorem reachable_marketStore : Reachable marketStore :=
  reachable_deliverAll (block 100) .empty (by decide)

def passStall : Message := ⟨bob, none, .account "market" "stall" (.transfer alice true)⟩

def deleteMarket : Message := ⟨alice, none, .domain "market" .delete⟩

def passedStore : Store := (ledger.deliver (block 200) passStall marketStore).store

def lateStore : Store := (ledger.deliver (block 100000) deleteMarket passedStore).store

theorem leads_lateStore {during : Store → Prop} (hpassed : during passedStore)
    (hlate : during lateStore) : Leads during marketStore lateStore :=
  .deliver ledger (block 100000) deleteMarket
    (.deliver ledger (block 200) passStall .start (by decide) hpassed) (by decide) hlate

def market : Domain := ⟨"market", alice, 1100, .opened, 500, none⟩

def stall : Account := .plain "market" "stall" bob 600

end Sample

/-- The account is passed on and the domain ends, and still everything is fixed that should be. -/
theorem governance_sample :
    ∃ market stall, Registry.domain? Sample.lateStore "market" = .ok (some market) ∧
      Registry.account? Sample.lateStore "market" "stall" = .ok (some stall) ∧
        Sample.market.Continues market ∧ market.admin = Sample.alice ∧
          Sample.stall.Continues stall ∧
            ∃ root, Registry.account? Sample.lateStore "market" "" = .ok (some root) := by
  have hmarket : Registry.domain? Sample.marketStore "market" = .ok (some Sample.market) := by
    decide +kernel
  have hstall : Registry.account? Sample.marketStore "market" "stall" =
      .ok (some Sample.stall) := by decide +kernel
  obtain ⟨hdomains, haccounts, hopened⟩ :=
    Reachable.governance_fixed Sample.reachable_marketStore
  obtain ⟨market, hfound, hsame⟩ := hdomains "market" _ hmarket _
    (Sample.leads_lateStore (by decide +kernel) (by decide +kernel))
  obtain ⟨stall, hfound', hsame'⟩ := haccounts "market" "stall" _ hstall _
    (Sample.leads_lateStore (by decide +kernel) (by decide +kernel))
  obtain ⟨market', hfound'', _, hadmin, _, root, _, hroot, _⟩ := hopened "market" _ hmarket rfl _
    (Sample.leads_lateStore trivial trivial)
  obtain rfl := Option.some.inj (Except.ok.inj (hfound.symm.trans hfound''))
  exact ⟨market, stall, hfound, hfound', hsame, hadmin, hsame', root, hroot⟩

end NameRegistry
