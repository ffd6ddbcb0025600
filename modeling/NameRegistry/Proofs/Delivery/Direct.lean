import NameRegistry.Proofs.Delivery.Reachable
import NameRegistry.Proofs.Guard.Faultless

namespace NameRegistry

/-- The stores that processing messages on the store itself leads to from the empty one, under one
usable configuration. Each message has a block and a collector of fees of its own, and may fail. -/
inductive Dispatched (language : PatternLanguage) (config : Config) : Store → Prop
  | empty : Dispatched language config ∅
  | dispatch {store : Store} {collectFee : Context → Message → Address → Except Error Unit}
      {environment : Environment} (context : Context) (message : Message) :
      Dispatched language config store →
      Environment.fixed language config collectFee = .ok environment → message.action.Fits →
      Dispatched language config (environment.dispatch context message store).store

theorem Config.certificateSizeMax_le {language : PatternLanguage} {config : Config}
    (h : config.validate language = .ok ()) :
    config.certificateSizeMax.toNat ≤ Packed.maxLength := by
  obtain ⟨_, _, hlimits⟩ := bind_eq_ok_iff.mp h
  obtain ⟨_, hsize, _⟩ := bind_eq_ok_iff.mp hlimits
  have hbounds := require_eq_ok_iff.mp hsize
  rw [Bool.and_eq_true, decide_eq_true_iff, decide_eq_true_iff] at hbounds
  exact hbounds.2

theorem Decision.Granted.indexable {situation : Situation Store} {records : Records}
    {signer : Address} {action : Action} {change : Change}
    (h : Granted situation records signer action change)
    (hsize : situation.config.certificateSizeMax.toNat ≤ Packed.maxLength) :
    change.Indexable := by
  cases h with
  | addCertificate _ _ _ hsome hlimit => exact ⟨hsome, Nat.le_trans hlimit hsize⟩
  | _ => trivial

namespace Environment

variable {language : PatternLanguage} {config : Config}
  {collectFee : Context → Message → Address → Except Error Unit} {environment : Environment}

theorem fixed_eq_ok (h : fixed language config collectFee = .ok environment) :
    config.validate language = .ok () ∧
      environment = ⟨language, fun _ => config, fun _ => owns config, collectFee⟩ := by
  obtain ⟨_, hvalid, hfixed⟩ := bind_eq_ok_iff.mp h
  exact ⟨hvalid, (Except.ok.inj hfixed).symm⟩

theorem apply_of_onMessage (hfixed : fixed language config collectFee = .ok environment)
    {store : Store} {records : Records} (h : Consistent store records) (context : Context)
    {message : Message} (hmessage : message.action.Fits) {change : Change}
    (hdecision : Decision.onMessage (environment.situation context store) message = .ok change) :
    Decision.Granted (environment.situation context store) records message.signer message.action
        change ∧
      ∃ after, change.apply store = .ok () after ∧
        Consistent after (change.onRecords records) := by
  have hgranted := Decision.granted_of_onMessage h.holds h.sound hdecision
  have hfits := hgranted.fits h.sound hmessage
  obtain ⟨hvalid, rfl⟩ := fixed_eq_ok hfixed
  have hindexable := hgranted.indexable (Config.certificateSizeMax_le hvalid)
  obtain ⟨after, happly, hholds⟩ :=
    Change.reaches_apply h.holds h.sound h.linked hfits hindexable
  refine ⟨hgranted, after, happly, hholds, ?_, ?_⟩
  · exact Change.sound_onRecords h.sound h.linked hfits hindexable
  · exact Change.linked_onRecords h.linked hfits

/-- On consistent records a message either makes a granted change to them, or is refused with an
error before anything is written. -/
theorem dispatch_cases (hfixed : fixed language config collectFee = .ok environment)
    {store : Store} {records : Records} (h : Consistent store records) (context : Context)
    {message : Message} (hmessage : message.action.Fits) :
    ((environment.dispatch context message store).result = .ok () ∧
      ∃ change, Decision.Granted (environment.situation context store) records message.signer
          message.action change ∧
        Consistent (environment.dispatch context message store).store
          (change.onRecords records)) ∨
    ∃ error, (environment.dispatch context message store).result = .error (.error error) ∧
      (environment.dispatch context message store).store = store := by
  rw [dispatch]
  cases hdecision : Decision.onMessage (environment.situation context store) message with
  | error failure =>
      right
      have hfailure := Decision.faultless_onMessage _ message failure hdecision
      cases failure with
      | error error => exact ⟨error, rfl, rfl⟩
      | fault fault => exact hfailure.elim
  | ok change =>
      obtain ⟨error | _, charges⟩ := environment.charge context message
      · exact Or.inr ⟨error, rfl, rfl⟩
      · left
        obtain ⟨hgranted, after, happly, hafter⟩ :=
          apply_of_onMessage hfixed h context hmessage hdecision
        dsimp only
        rw [happly]
        exact ⟨rfl, change, hgranted, hafter⟩

end Environment

theorem Dispatched.consistent {language : PatternLanguage} {config : Config} {store : Store}
    (h : Dispatched language config store) : ∃ records, Consistent store records := by
  induction h with
  | empty => exact ⟨Records.empty, holds_empty, Records.Sound.empty, nofun, nofun⟩
  | dispatch context message _ hfixed hmessage ih =>
      obtain ⟨records, hconsistent⟩ := ih
      rcases Environment.dispatch_cases hfixed hconsistent context hmessage with
        ⟨_, change, _, hafter⟩ | ⟨_, _, hsame⟩
      · exact ⟨change.onRecords records, hafter⟩
      · rw [hsame]
        exact ⟨records, hconsistent⟩

/-- A message that is processed on such a store meets no fault, and leaves the store as it was if it
fails. A domain that is loaded on the way has the name that it was looked up by, so that no account
is checked under a domain of another name. -/
theorem Dispatched.atomic {language : PatternLanguage} {config : Config} {store : Store}
    (h : Dispatched language config store)
    {collectFee : Context → Message → Address → Except Error Unit} {environment : Environment}
    (hfixed : Environment.fixed language config collectFee = .ok environment) (context : Context)
    (message : Message) (hmessage : message.action.Fits) :
    (∀ fault, (environment.dispatch context message store).result ≠ .error (.fault fault)) ∧
    (∀ failure, (environment.dispatch context message store).result = .error failure →
      (environment.dispatch context message store).store = store) ∧
    ∀ name checks domain, Decision.loadDomain (environment.situation context store) name
      (.mustExist :: checks) = .ok domain → domain.name = name := by
  obtain ⟨records, hconsistent⟩ := h.consistent
  have hname (name : String) : ∀ domain ∈ records.domain? name, domain.name = name :=
    fun domain hdomain => (hconsistent.sound.domains hdomain).1
  refine ⟨?_, ?_, ?_⟩
  · rintro fault hresult
    rcases Environment.dispatch_cases hfixed hconsistent context hmessage with
      ⟨hok, _⟩ | ⟨error, herror, _⟩
    · cases hok.symm.trans hresult
    · cases herror.symm.trans hresult
  · rintro failure hresult
    rcases Environment.dispatch_cases hfixed hconsistent context hmessage with
      ⟨hok, _⟩ | ⟨_, _, hsame⟩
    · cases hok.symm.trans hresult
    · exact hsame
  · intro name checks domain hload
    have hfound := hconsistent.holds.domain?_eq hconsistent.sound name
    obtain ⟨hdomain, _⟩ := (Decision.loadDomain_eq_ok_iff hfound (hname name)).mp hload
    exact hname name domain hdomain

namespace Sample

/-- A ledger whose collector refuses every payer. -/
def strict : Environment :=
  { ledger with
    collectFee := fun _ message payer => .error ⟨.fee, s!"{payer} cannot pay {message.route}"⟩ }

theorem validate_testing : Config.testing.validate Pattern.language = .ok () := by decide +kernel

theorem fixed_ledger :
    Environment.fixed Pattern.language Config.testing ledger.collectFee = .ok ledger := by
  rw [Environment.fixed, validate_testing]
  rfl

theorem fixed_strict :
    Environment.fixed Pattern.language Config.testing strict.collectFee = .ok strict := by
  rw [Environment.fixed, validate_testing]
  rfl

/-- The store after Alice has registered her domain without a branch. -/
def registered : Store := (ledger.dispatch (block 100) registerBank ∅).store

theorem dispatched_registered : Dispatched Pattern.language Config.testing registered :=
  .dispatch (block 100) registerBank .empty fixed_ledger (by decide)

end Sample

/-- Alice cannot pay for an account: she would be let register it, but nothing is written. -/
theorem atomic_sample_refused :
    let outcome := Sample.strict.dispatch (Sample.block 100) Sample.registerTeller Sample.registered
    outcome.charges = [⟨Sample.registerTeller, Sample.alice⟩] ∧ Sample.registered.size = 4 ∧
      outcome.store = Sample.registered ∧ ∀ fault, outcome.result ≠ .error (.fault fault) := by
  have hcharges : (Sample.strict.dispatch (Sample.block 100) Sample.registerTeller
      Sample.registered).charges = [⟨Sample.registerTeller, Sample.alice⟩] := by decide +kernel
  have hfails : (Sample.strict.dispatch (Sample.block 100) Sample.registerTeller
      Sample.registered).result ≠ .ok () := by decide +kernel
  obtain ⟨hfaultless, hatomic, _⟩ := Dispatched.atomic Sample.dispatched_registered
    Sample.fixed_strict (Sample.block 100) Sample.registerTeller (by decide)
  refine ⟨hcharges, by decide +kernel, ?_, hfaultless⟩
  cases hresult : (Sample.strict.dispatch (Sample.block 100) Sample.registerTeller
      Sample.registered).result with
  | ok _ => exact absurd hresult hfails
  | error failure => exact hatomic failure hresult

end NameRegistry
