import NameRegistry.Proofs.Delivery.Succession

namespace NameRegistry

open Decision

section Ends

theorem min_le_neverExpires (validUntil : Int64) : min validUntil neverExpires ≤ neverExpires := by
  rw [Int64.le_iff_toInt_le, toInt_min]
  omega

theorem firstTerm_le {situation : Situation Store} {domainType : DomainType} :
    firstTerm situation domainType ≤ neverExpires := by
  cases domainType with
  | closed => exact Int64.le_refl _
  | opened => exact min_le_neverExpires _

theorem Config.keeps_ends (language : PatternLanguage) (config : Config) :
    config.Keeps language (fun domain => 0 ≤ domain.accountRenewal.toInt)
      (fun account => account.name ≠ "" → account.validUntil ≤ neverExpires) where
  domains hstep hbefore := by
    cases hstep with
    | registered => exact wholeSeconds_nonneg _
    | _ =>
        have hperiod := hbefore _ rfl
        exact hperiod
  accounts hstep hbefore := by
    cases hstep with
    | root => exact absurd rfl
    | registered => exact fun _ => firstTerm_le
    | renewed => exact fun _ => min_le_neverExpires _
    | moved =>
        rw [Registry.moved_name, Registry.moved_validUntil]
        exact hbefore _ rfl
    | _ =>
        have hcapped := hbefore _ rfl
        exact hcapped

variable {situation : Situation Store} {records : Records} {action : Action}

theorem Domain.Succeeds.validUntil_le {before later : Domain}
    (h : Domain.Succeeds situation (some before) later) :
    before.validUntil ≤ later.validUntil := by
  cases h with
  | renewed => exact Int64.le_iff_toInt_le.mpr (le_addSeconds (wholeSeconds_nonneg _))
  | kept => exact Int64.le_refl _
  | transferred => exact Int64.le_refl _

theorem Account.Succeeds.renewed_of_lt {before later : Account}
    (h : Account.Succeeds situation records action (some before) later)
    (hrenewal : ∀ domain, records.domain? before.domain = some domain →
      0 ≤ domain.accountRenewal.toInt)
    (hback : later.validUntil < before.validUntil) :
    neverExpires < before.validUntil ∧ action = .account before.domain before.name .renew := by
  cases h with
  | renewed haction hdomain =>
      refine ⟨?_, haction⟩
      have hextended := le_addSeconds (a := before.validUntil) (hrenewal _ hdomain)
      rw [Int64.lt_iff_toInt_lt, toInt_min] at hback
      rw [Int64.lt_iff_toInt_lt]
      omega
  | moved =>
      rw [Registry.moved_validUntil] at hback
      exact (Int64.lt_irrefl hback).elim
  | _ => exact (Int64.lt_irrefl hback).elim

theorem Decision.Granted.validUntil_renewed {signer : Address} {account later : Account}
    {change : Change}
    (h : Granted situation records signer (.account account.domain account.name .renew) change)
    (hsound : records.Sound)
    (hlater : (change.onRecords records).account? account.domain account.name = some later) :
    later.validUntil ≤ neverExpires := by
  cases h with
  | renewAccount _ hfound =>
      obtain ⟨hdomain, hname, _⟩ := hsound.accounts hfound
      rw [Change.onRecords, Records.account?_setAccount, if_pos ⟨hdomain.symm, hname.symm⟩]
        at hlater
      obtain rfl := Option.some.inj hlater
      exact min_le_neverExpires _

end Ends

/-- An accepted message moves the end of no domain back, and the end of an account only if it renews
a root account that ends after the year 9999. -/
theorem Delivered.ends_advance {language : PatternLanguage} {config : Config} {store : Store}
    (h : Delivered language config store) (environment : Environment) (context : Context)
    (message : Message) (hmessage : message.action.Fits)
    (haccepted : (environment.deliver context message store).result = .ok ()) :
    let after := (environment.deliver context message store).store
    (∀ name domain later, Registry.domain? store name = .ok (some domain) →
      Registry.domain? after name = .ok (some later) → domain.validUntil ≤ later.validUntil) ∧
    ∀ domainName name account later,
      Registry.account? store domainName name = .ok (some account) →
      Registry.account? after domainName name = .ok (some later) →
      (later.validUntil < account.validUntil ↔ neverExpires < account.validUntil ∧
        message.action = .account account.domain account.name .renew) ∧
      (account.name ≠ "" → account.validUntil ≤ later.validUntil) := by
  intro after
  obtain ⟨records, hbefore, hends⟩ := h.exists_records (config.keeps_ends language)
  obtain ⟨change, hgranted, hafter⟩ := Environment.granted_of_accepted hbefore haccepted hmessage
  constructor
  · intro name domain later hdomain hlater
    rw [hbefore.holds.domain?_eq hbefore.sound] at hdomain
    rw [hafter.holds.domain?_eq hafter.sound] at hlater
    have hstep := hgranted.succeeds_domain hbefore.sound (Except.ok.inj hlater)
    rw [Except.ok.inj hdomain] at hstep
    exact hstep.validUntil_le
  · intro domainName name account later haccount hlater
    obtain ⟨domain', name', hplain, hobject⟩ := Key.exists_plain_object domainName name
    rw [hbefore.holds.account?_of_object hbefore.sound hplain hobject] at haccount
    rw [hafter.holds.account?_of_object hafter.sound hplain hobject] at hlater
    have hfound := Except.ok.inj haccount
    have hfound' := Except.ok.inj hlater
    obtain ⟨rfl, rfl, _⟩ := hbefore.sound.accounts hfound
    have hstep := hgranted.succeeds_account hbefore.sound hbefore.linked hfound'
    rw [hfound] at hstep
    have hrenewed := hstep.renewed_of_lt fun _ hdomain => hends.domains hdomain
    refine ⟨⟨hrenewed, ?_⟩, fun hname => ?_⟩
    · rintro ⟨hlate, haction⟩
      rw [haction] at hgranted
      exact Int64.lt_of_le_of_lt (hgranted.validUntil_renewed hbefore.sound hfound') hlate
    · have hcapped := hends.accounts hfound hname
      refine Int64.not_lt.mp fun hback => ?_
      exact Int64.lt_irrefl (Int64.lt_of_lt_of_le (hrenewed hback).1 hcapped)

namespace Sample

/-- The configuration for tests with domains that last beyond the year 9999. -/
def lasting : Config := { Config.testing with domainRenewal := .ofSeconds 1000000000000 }

theorem validate_lasting : lasting.validate Pattern.language = .ok () := by decide +kernel

/-- The store with Alice's domain, which lasts beyond the year 9999. -/
def lastingStore : Store := ((ledgerUnder lasting).deliver (block 100) registerBank ∅).store

theorem delivered_lastingStore : Delivered Pattern.language lasting lastingStore :=
  .deliver (block 100) registerBank .empty (fixed_ledgerUnder validate_lasting) (by decide)

def renewRoot : Message := ⟨bob, none, .account "bank" "" .renew⟩

def renewedStore : Store :=
  ((ledgerUnder lasting).deliver (block 100) renewRoot lastingStore).store

def bankRoot (validUntil : Int64) : Account := .plain "bank" "" alice validUntil

end Sample

/-- The end of a root account can be beyond the year 9999, and then its renewal moves it back. -/
theorem ends_sample_root :
    Registry.account? Sample.lastingStore "bank" "" =
        .ok (some (Sample.bankRoot 1000000000100)) ∧
      Registry.account? Sample.renewedStore "bank" "" =
        .ok (some (Sample.bankRoot neverExpires)) ∧
      neverExpires < (Sample.bankRoot 1000000000100).validUntil := by
  have hroot : Registry.account? Sample.lastingStore "bank" "" =
      .ok (some (Sample.bankRoot 1000000000100)) := by decide +kernel
  have hrenewed : Registry.account? Sample.renewedStore "bank" "" =
      .ok (some (Sample.bankRoot neverExpires)) := by decide +kernel
  obtain ⟨_, hends⟩ := Delivered.ends_advance Sample.delivered_lastingStore
    (Sample.ledgerUnder Sample.lasting) (Sample.block 100) Sample.renewRoot (by decide)
    (by decide +kernel)
  obtain ⟨hback, _⟩ := hends "bank" "" _ _ hroot hrenewed
  exact ⟨hroot, hrenewed, (hback.mp (by decide)).1⟩

/-- An accepted renewal that shortens an account. -/
theorem ends_not_monotone :
    Delivered Pattern.language Sample.lasting Sample.lastingStore ∧
      ((Sample.ledgerUnder Sample.lasting).deliver (Sample.block 100) Sample.renewRoot
        Sample.lastingStore).result = .ok () ∧
      Registry.account? Sample.lastingStore "bank" "" =
        .ok (some (Sample.bankRoot 1000000000100)) ∧
      Registry.account? Sample.renewedStore "bank" "" =
        .ok (some (Sample.bankRoot neverExpires)) ∧
      ¬ (1000000000100 : Int64) ≤ neverExpires :=
  ⟨Sample.delivered_lastingStore, by decide +kernel, by decide +kernel, by decide +kernel,
    by decide⟩

theorem isExpired_newDomain (situation : Situation Store) {name : String} {admin : Address}
    {domainType : DomainType} {broker : Option Address} :
    (newDomain situation name admin domainType broker).isExpired situation.context = true ↔
      situation.config.domainRenewal.seconds = 0 ∧ 0 < situation.context.nanos.value := by
  obtain ⟨hleast, hgreatest⟩ := situation.context.in_calendar
  rw [Domain.isExpired, Context.isAfter_iff, Context.Passed, newDomain, toInt_addSeconds,
    Context.toInt_now, toInt_wholeSeconds, clamped, ← UInt64.toNat_inj]
  change _ ↔ situation.config.domainRenewal.seconds.toNat = 0 ∧ _
  omega

section Accepted

variable {store : Store} {records : Records} {environment : Environment} {context : Context}
  {signer : Address} {feePayer : Option Address} {name : String}

theorem domain?_of_registered (h : Consistent store records) (hname : TextFits name)
    {domainType : DomainType} {broker : Option Address} :
    let outcome := environment.deliver context
      ⟨signer, feePayer, .domain name (.register domainType broker)⟩ store
    outcome.result = .ok () → Registry.domain? outcome.store name =
      .ok (some (newDomain (environment.situation context store) name signer domainType
        broker)) := by
  intro outcome haccepted
  obtain ⟨change, hgranted, hafter⟩ := Environment.granted_of_accepted h haccepted hname
  cases hgranted with
  | registerDomain =>
      rw [hafter.holds.domain?_eq hafter.sound]
      exact congrArg Except.ok (if_pos rfl)

theorem domain?_of_renewed (h : Consistent store records) (hname : TextFits name) :
    let outcome := environment.deliver context ⟨signer, feePayer, .domain name .renew⟩ store
    outcome.result = .ok () → ∃ domain, Registry.domain? store name = .ok (some domain) ∧
      Registry.domain? outcome.store name = .ok (some { domain with
        validUntil := addSeconds domain.validUntil
          (environment.configuration context).domainRenewal.wholeSeconds }) := by
  intro outcome haccepted
  obtain ⟨change, hgranted, hafter⟩ := Environment.granted_of_accepted h haccepted hname
  cases hgranted with
  | @renewDomain _ domain hfound =>
      obtain ⟨rfl, _⟩ := h.sound.domains hfound
      refine ⟨domain, ?_, ?_⟩
      · rw [h.holds.domain?_eq h.sound, hfound]
      · rw [hafter.holds.domain?_eq hafter.sound]
        exact congrArg Except.ok (if_pos rfl)

end Accepted

/-- Unless the period of renewal is a part of a second, a domain has not expired in the block that
registers it, and a renewal moves its end, but for one that is the last second there is. -/
theorem Delivered.renewal_effective {language : PatternLanguage} {config : Config} {store : Store}
    (h : Delivered language config store)
    {collectFee : Context → Message → Address → Except Error Unit} {environment : Environment}
    (hfixed : Environment.fixed language config collectFee = .ok environment) (context : Context)
    (signer : Address) (feePayer : Option Address) {name : String} (hname : TextFits name) :
    (∀ domainType broker,
      let outcome := environment.deliver context
        ⟨signer, feePayer, .domain name (.register domainType broker)⟩ store
      outcome.result = .ok () →
        ∃ domain, Registry.domain? outcome.store name = .ok (some domain) ∧
          (domain.isExpired context = true ↔
            config.domainRenewal.seconds = 0 ∧ 0 < context.nanos.value)) ∧
    let outcome := environment.deliver context ⟨signer, feePayer, .domain name .renew⟩ store
    outcome.result = .ok () →
      ∃ domain later, Registry.domain? store name = .ok (some domain) ∧
        Registry.domain? outcome.store name = .ok (some later) ∧
          (domain.validUntil < later.validUntil ↔
            config.domainRenewal.seconds ≠ 0 ∧ domain.validUntil ≠ Int64.maxValue) := by
  obtain ⟨records, hconsistent⟩ := h.reachable.consistent
  rw [← Environment.configuration_of_fixed hfixed context]
  constructor
  · intro domainType broker outcome haccepted
    exact ⟨_, domain?_of_registered hconsistent hname haccepted,
      isExpired_newDomain (environment.situation context store)⟩
  · intro outcome haccepted
    obtain ⟨domain, hdomain, hlater⟩ := domain?_of_renewed hconsistent hname haccepted
    refine ⟨domain, _, hdomain, hlater, ?_⟩
    rw [lt_addSeconds_iff (wholeSeconds_nonneg _), ne_eq, wholeSeconds_eq_zero_iff]

namespace Sample

/-- The configuration for tests with a period of renewal of one nanosecond. -/
def fleeting : Config := { Config.testing with domainRenewal := ⟨0, ⟨1, by decide⟩⟩ }

def halfPast : Context := ⟨100, ⟨500000000, by decide⟩, 1, by decide⟩

/-- The store with Alice's domain, which has ended at once. -/
def fleetingStore : Store := ((ledgerUnder fleeting).deliver halfPast registerBank ∅).store

def renewBank : Message := ⟨alice, none, .domain "bank" .renew⟩

def fleetingBank : Domain := ⟨"bank", alice, 100, .closed, 500, none⟩

end Sample

/-- Alice's domain is registered for a thousand seconds, and renewed for as many. -/
theorem renewal_sample :
    (∃ domain, Registry.domain? (Sample.ledger.deliver (Sample.block 100) Sample.registerBank
        (∅ : Store)).store "bank" = .ok (some domain) ∧
      domain.isExpired (Sample.block 100) ≠ true) ∧
    ∃ domain later, Registry.domain? Sample.store "bank" = .ok (some domain) ∧
      Registry.domain? (Sample.ledger.deliver (Sample.block 100) Sample.renewBank
        Sample.store).store "bank" = .ok (some later) ∧
      domain.validUntil < later.validUntil := by
  have hname : TextFits "bank" := by decide
  obtain ⟨hregister, _⟩ := Delivered.renewal_effective Delivered.empty Sample.fixed_ledger
    (Sample.block 100) Sample.alice none hname
  obtain ⟨_, hrenew⟩ := Delivered.renewal_effective Sample.delivered_store Sample.fixed_ledger
    (Sample.block 100) Sample.alice none hname
  obtain ⟨domain, hdomain, hexpired⟩ := hregister .closed none (by decide +kernel)
  obtain ⟨domain', later, hdomain', hlater, hend⟩ := hrenew (by decide +kernel)
  have hsame : Registry.domain? Sample.store "bank" =
      .ok (some ⟨"bank", Sample.alice, 1100, .closed, 500, none⟩) := by decide +kernel
  obtain rfl := Option.some.inj (Except.ok.inj (hdomain'.symm.trans hsame))
  have hperiod : Config.testing.domainRenewal.seconds ≠ 0 := by decide
  exact ⟨⟨domain, hdomain, fun htrue => hperiod (hexpired.mp htrue).1⟩,
    _, later, hdomain', hlater, hend.mpr ⟨hperiod, by decide⟩⟩

/-- A usable configuration under which a domain has expired in the block that registers it, and its
renewal changes nothing. -/
theorem renewal_not_effective :
    Sample.fleeting.validate Pattern.language = .ok () ∧
      ((Sample.ledgerUnder Sample.fleeting).deliver Sample.halfPast Sample.registerBank
        (∅ : Store)).result = .ok () ∧
      Registry.domain? Sample.fleetingStore "bank" = .ok (some Sample.fleetingBank) ∧
      Sample.fleetingBank.isExpired Sample.halfPast = true ∧
      ((Sample.ledgerUnder Sample.fleeting).deliver Sample.halfPast Sample.renewBank
        Sample.fleetingStore).result = .ok () ∧
      Registry.domain? ((Sample.ledgerUnder Sample.fleeting).deliver Sample.halfPast
        Sample.renewBank Sample.fleetingStore).store "bank" = .ok (some Sample.fleetingBank) :=
  ⟨by decide +kernel, by decide +kernel, by decide +kernel, by decide, by decide +kernel,
    by decide +kernel⟩

end NameRegistry
