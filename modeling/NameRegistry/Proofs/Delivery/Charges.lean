import NameRegistry.Proofs.Delivery.Acceptance

namespace NameRegistry

/-- Whether a message has been charged as it should be, and never in vain. `collect` is what the
collector answers, and `store` the store before. -/
structure Charged (collect : Charge → Except Error Unit) (message : Message)
    (requirements : List Requirement) (store : Store) (outcome : Outcome Store) : Prop where
  /-- The collector is asked at most once. -/
  once : outcome.charges.length ≤ 1
  /-- It is not asked if anything is not met that the message requires, and otherwise it is. -/
  unmet : outcome.charges = [] ↔ ∃ requirement ∈ requirements, requirement.met = false
  /-- It is asked for this message, and for the payer that is named or else the signer. -/
  payer {charge : Charge} :
    charge ∈ outcome.charges →
      charge.message = message ∧ charge.payer = message.feePayer.getD message.signer
  /-- A message goes through if and only if the collector was asked and accepted. -/
  accepted :
    outcome.result = .ok () ↔ ∃ charge ∈ outcome.charges, collect charge = .ok ()
  /-- If the collector fails, its error keeps its kind and nothing is written. -/
  refused {charge : Charge} {error : Error} :
    charge ∈ outcome.charges → collect charge = .error error →
      outcome.store = store ∧
        ∃ error', outcome.result = .error (.error error') ∧ error'.kind = error.kind

section Charged

variable {collect : Charge → Except Error Unit} {message : Message}
  {requirements : List Requirement} {store : Store} {outcome : Outcome Store}

theorem charged_of_unasked {failure : Failure} (hcharges : outcome.charges = [])
    (hunmet : ∃ requirement ∈ requirements, requirement.met = false)
    (hresult : outcome.result = .error failure) :
    Charged collect message requirements store outcome where
  once := by simp [hcharges]
  unmet := iff_of_true hcharges hunmet
  payer := by simp [hcharges]
  accepted := by simp [hcharges, hresult]
  refused := by simp [hcharges]

theorem charged_of_asked {context : String}
    (hcharges : outcome.charges = [⟨message, message.payer⟩])
    (hmet : ∀ requirement ∈ requirements, requirement.met = true)
    (hresult : outcome.result =
      liftM ((collect ⟨message, message.payer⟩).mapError fun error => error.context context))
    (hstore : outcome.result ≠ .ok () → outcome.store = store) :
    Charged collect message requirements store outcome where
  once := by
    rw [hcharges]
    exact Nat.le_refl 1
  unmet := by
    rw [hcharges]
    refine iff_of_false (List.cons_ne_nil _ _) ?_
    rintro ⟨requirement, hrequirement, hunmet⟩
    cases (hmet requirement hrequirement).symm.trans hunmet
  payer {charge} hcharge := by
    rw [hcharges, List.mem_singleton] at hcharge
    subst hcharge
    exact ⟨rfl, rfl⟩
  accepted := by
    rw [hcharges, hresult]
    constructor
    · intro hok
      refine ⟨_, List.mem_singleton_self _, ?_⟩
      cases hcollect : collect ⟨message, message.payer⟩ with
      | ok _ => rfl
      | error error =>
          rw [hcollect] at hok
          cases hok
    · rintro ⟨charge, hcharge, hcollect⟩
      obtain rfl := List.mem_singleton.mp hcharge
      rw [hcollect]
      rfl
  refused {charge error} hcharge hfails := by
    rw [hcharges, List.mem_singleton] at hcharge
    subst hcharge
    rw [hfails] at hresult
    refine ⟨hstore ?_, error.context context, hresult, rfl⟩
    rw [hresult]
    exact nofun

end Charged

namespace Environment

variable {environment environment' : Environment} {context : Context} {message : Message}
  {store : Store}

theorem deliver_congr
    (hsituation : environment'.situation context store = environment.situation context store)
    (hcharge : ∀ change,
      Decision.onMessage (environment.situation context store) message = .ok change →
        environment'.charge context message = environment.charge context message) :
    environment'.deliver context message store = environment.deliver context message store := by
  have hdispatch : environment'.dispatch context message store =
      environment.dispatch context message store := by
    rw [dispatch, dispatch, hsituation]
    cases hdecision : Decision.onMessage (environment.situation context store) message with
    | error failure => rfl
    | ok change =>
        dsimp only
        rw [hcharge change hdecision]
  rw [deliver_eq_dispatch_or_nothing, deliver_eq_dispatch_or_nothing, hdispatch]

end Environment

/-- A message is charged once and never in vain; and as what came of it does not depend on what the
collector would have answered to anything else, the collector is asked for nothing else. -/
theorem Delivered.charged {language : PatternLanguage} {config : Config} {store : Store}
    (h : Delivered language config store)
    {collectFee : Context → Message → Address → Except Error Unit} {environment : Environment}
    (hfixed : Environment.fixed language config collectFee = .ok environment) (context : Context)
    (message : Message) (hmessage : message.action.Fits) :
    (∃ lookup, message.action.lookUp store = .ok lookup ∧
      Charged (fun charge => collectFee context charge.message charge.payer) message
        (message.action.requirements language config context message.signer lookup) store
        (environment.deliver context message store)) ∧
    ∀ collectFee' environment', Environment.fixed language config collectFee' = .ok environment' →
      (∀ charge ∈ (environment.deliver context message store).charges,
        collectFee' context charge.message charge.payer =
          collectFee context charge.message charge.payer) →
      environment'.deliver context message store =
        environment.deliver context message store := by
  obtain ⟨records, hconsistent⟩ := h.reachable.consistent
  obtain ⟨lookup, hlookup, hdecided⟩ := h.decidedBy hfixed context message
  have hresult := Environment.result_deliver_eq hfixed hconsistent context hmessage
  constructor
  · refine ⟨lookup, hlookup, ?_⟩
    cases hdecision : Decision.onMessage (environment.situation context store) message with
    | error failure =>
        have hcharges := Environment.charges_deliver_of_error hdecision
        rw [hdecision] at hresult
        exact charged_of_unasked hcharges (hdecided.exists_unmet hdecision) hresult
    | ok change =>
        have hcharges := Environment.charges_deliver_of_ok hdecision
        rw [hdecision, Environment.charge_of_fixed hfixed] at hresult
        refine charged_of_asked hcharges (hdecided.eq_ok_iff.mp ⟨change, hdecision⟩) hresult ?_
        rw [Environment.result_deliver]
        exact environment.store_deliver_of_error context message store
  · intro collectFee' environment' hfixed' hsame
    apply Environment.deliver_congr
    · rw [Environment.situation_of_fixed hfixed, Environment.situation_of_fixed hfixed']
    · intro change hdecision
      have hasked : ⟨message, message.payer⟩ ∈
          (environment.deliver context message store).charges := by
        rw [Environment.charges_deliver_of_ok hdecision]
        exact List.mem_singleton_self _
      ext1
      · rw [Environment.charge_of_fixed hfixed, Environment.charge_of_fixed hfixed',
          hsame _ hasked]
      · rfl

/-- Bob is named as the payer for Alice's flush and cannot pay: he is asked once, and the flush
comes to nothing. -/
theorem charged_sample_refused :
    let message : Message := ⟨Sample.alice, some Sample.bob, .domain "bank" .flush⟩
    let outcome := Sample.strict.deliver (Sample.block 200) message Sample.store
    outcome.charges = [⟨message, Sample.bob⟩] ∧ outcome.store = Sample.store ∧
      ∃ error, outcome.result = .error (.error error) ∧ error.kind = .fee := by
  intro message outcome
  have hcharges : outcome.charges = [⟨message, Sample.bob⟩] := by decide +kernel
  obtain ⟨⟨lookup, hlookup, hcharged⟩, _⟩ := Delivered.charged Sample.delivered_store
    Sample.fixed_strict (Sample.block 200) message (by decide)
  have hasked : ⟨message, Sample.bob⟩ ∈ outcome.charges := by
    rw [hcharges]
    exact List.mem_singleton_self _
  exact ⟨hcharges, hcharged.refused hasked rfl⟩

end NameRegistry
