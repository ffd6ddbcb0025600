import NameRegistry.Proofs.Delivery.Authorization
import NameRegistry.Proofs.Delivery.Outcome
import NameRegistry.Proofs.Guard.Requirement
/-!
When a message is accepted. What an action requires of the block, the signer and what is found under
its names is a list of conditions. Where deliveries under one configuration have led, a message that
is paid for goes through if all of them are met, and otherwise fails with the kind of the first that
is not (`Delivered.accepted_iff`).
-/
namespace NameRegistry

/-- What is found under the names of an action. -/
structure Lookup where
  domain? : Option Domain
  account? : Option Account
  deriving DecidableEq

def Action.lookUp (store : Store) : Action → Except Error Lookup
  | domain name _ => return ⟨← Registry.domain? store name, none⟩
  | account domainName name _ =>
    return ⟨← Registry.domain? store domainName, ← Registry.account? store domainName name⟩

/-- What `signer` has to meet for an action on a domain, in order. -/
def DomainAction.requirements (language : PatternLanguage) (config : Config) (context : Context)
    (signer : Address) (name : String) (domain? : Option Domain) (action : DomainAction) :
    List Requirement :=
  let required := List.map (DomainCheck.requirement language config context name domain?)
  match action with
  | register _ _ => ⟨signer ≠ .empty, .invalidOwner⟩ :: required [.mustNotExist, .validName]
  | renew => required [.mustExist]
  | delete =>
    required [.mustExist, .type .closed] ++
      [⟨domain?.any fun domain => domain.admin = signer ∨ context.Passed
          (domain.validUntil.toInt + config.domainGrace.seconds.toNat), .gracePeriodNotFinished⟩]
  | transfer newAdmin _ =>
    ⟨newAdmin ≠ .empty, .invalidOwner⟩ ::
      required [.mustExist, .type .closed, .admin signer, .notExpired]
  | flush => required [.mustExist, .type .closed, .admin signer, .notExpired]

/-- What `signer` has to meet for an action on an account, in order. -/
def AccountAction.requirements (language : PatternLanguage) (config : Config) (context : Context)
    (signer : Address) (domainName name : String) (lookup : Lookup) (action : AccountAction) :
    List Requirement :=
  let above :=
    List.map (DomainCheck.requirement language config context domainName lookup.domain?)
  let required := List.flatMap
    (AccountCheck.requirements language config context name lookup.domain? lookup.account?)
  let isOf (domainType : DomainType) : Bool :=
    lookup.domain?.any fun domain => domain.domainType = domainType
  match action with
  | register owner targets _ =>
    ⟨owner ≠ .empty, .invalidOwner⟩ ::
      (above [.mustExist, .notExpired] ++ (if isOf .closed then above [.admin signer] else []) ++
        required [.mustNotExist, .validName, .validTargets targets])
  | renew => above [.mustExist] ++ required [.mustExist]
  | delete => above [.mustExist] ++ required [.notRoot, .mustExist, .deletableBy signer]
  | transfer newOwner _ =>
    ⟨newOwner ≠ .empty, .invalidOwner⟩ ::
      (above [.mustExist] ++
        required [.notRoot, .mustExist, .notExpired, .transferableBy signer])
  | addCertificate certificate =>
    required [.mustExist, .owner signer, .certificateSize certificate,
      .certificateNotExist certificate, .certificateLimit]
  | deleteCertificate certificate =>
    required [.mustExist, .owner signer, .certificateExists certificate]
  | replaceTargets targets =>
    above [.mustExist] ++ required ([.mustExist, .owner signer, .validTargets targets] ++
      if isOf .opened then [.notExpired] else [])
  | replaceMetadata uri => required [.mustExist, .owner signer, .metadataSize uri]

/-- What `signer` has to meet for an action, in order. -/
def Action.requirements (language : PatternLanguage) (config : Config) (context : Context)
    (signer : Address) (lookup : Lookup) : Action → List Requirement
  | domain name action => action.requirements language config context signer name lookup.domain?
  | account domainName name action =>
    action.requirements language config context signer domainName name lookup

namespace Decision

theorem decidedBy_named {address : Address} (detail : String) :
    DecidedBy [⟨address ≠ .empty, .invalidOwner⟩]
      (liftM (require (!address.isEmpty) .invalidOwner detail) : Except Failure Unit) :=
  decidedBy_require _ _ (by simp [Address.isEmpty])

theorem decidedBy_verdicts {σ : Type} {situation : Situation σ}
    (hreadable : situation.config.Readable situation.language) (domain : Domain)
    (checks : List DomainCheck) :
    DecidedBy (checks.map (DomainCheck.requirement situation.language situation.config
        situation.context domain.name (some domain)))
      (checks.forM (DomainGuard.verdict situation domain)) := by
  rw [List.map_eq_flatMap]
  exact decidedBy_forM fun check _ => DomainGuard.decidedBy_verdict hreadable domain check

section Loading

variable {σ : Type} [KeyValueStore σ] {situation : Situation σ} {signer : Address}
  {domainName name : String} {domain? : Option Domain} {account? : Option Account}

theorem decidedBy_loadDomain (hreadable : situation.config.Readable situation.language)
    (hfound : Registry.domain? situation.store name = .ok domain?)
    (hname : ∀ domain ∈ domain?, domain.name = name) (checks : List DomainCheck) :
    DecidedBy ((.mustExist :: checks).map (DomainCheck.requirement situation.language
        situation.config situation.context name domain?))
      (loadDomain situation name (.mustExist :: checks)) := by
  rw [loadDomain, DomainGuard.evaluate_validate situation hfound hname]
  cases domain? with
  | none => exact ⟨_, rfl, rfl⟩
  | some domain =>
      obtain rfl := hname domain rfl
      exact decidedBy_bind_ok (decidedBy_verdicts hreadable domain checks)
        fun _ _ => ⟨domain, rfl⟩

theorem decidedBy_loadAccount (hreadable : situation.config.Readable situation.language)
    (hfound : Registry.account? situation.store domainName name = .ok account?)
    {parent : Option Domain} {checks : List AccountCheck}
    (hchecks : ∀ certificate, .certificateExists certificate ∉ checks)
    (hparent : parent.isSome ∨ ∀ check ∈ checks, check.onParent = false) :
    DecidedBy ((.mustExist :: checks).flatMap (AccountCheck.requirements situation.language
        situation.config situation.context name parent account?))
      (loadAccount situation domainName name parent (.mustExist :: checks)) := by
  rw [loadAccount, AccountGuard.evaluate_validate situation hfound]
  cases account? with
  | none => exact ⟨_, rfl, rfl⟩
  | some account =>
      let guard := AccountGuard.of domainName name parent
      have hguard (check : AccountCheck) (hcheck : check ∈ checks) :
          guard.parent.isSome ∨ check.onParent = false :=
        hparent.imp id fun honParent => honParent check hcheck
      have hverdicts := decidedBy_forM fun check hcheck =>
        AccountGuard.decidedBy_verdict hreadable account (hguard check hcheck)
      rw [Option.elim_some, AccountGuard.evaluate_validate_found situation guard account hchecks]
      exact decidedBy_bind_ok hverdicts fun _ _ => ⟨account, rfl⟩

theorem decidedBy_loadAccount_notRoot {requirements : List Requirement} {parent : Option Domain}
    {checks : List AccountCheck}
    (h : DecidedBy requirements (loadAccount situation domainName name parent checks)) :
    DecidedBy (⟨name ≠ "", .invalidRequest⟩ :: requirements)
      (loadAccount situation domainName name parent (.notRoot :: checks)) := by
  rw [loadAccount_notRoot_eq]
  exact decidedBy_cons (decidedBy_require _ _ Iff.rfl) fun _ _ => h

theorem decidedBy_openToRegistration (hreadable : situation.config.Readable situation.language)
    (hfound : Registry.domain? situation.store name = .ok domain?)
    (hname : ∀ domain ∈ domain?, domain.name = name) :
    DecidedBy
      ([.mustExist, .notExpired].map (DomainCheck.requirement situation.language situation.config
          situation.context name domain?) ++
        if domain?.any fun domain => domain.domainType = .closed then
          [.admin signer].map (DomainCheck.requirement situation.language situation.config
            situation.context name domain?)
        else [])
      (openToRegistration situation signer name) := by
  rw [openToRegistration_eq hfound hname]
  cases domain? with
  | none => exact ⟨_, rfl, rfl⟩
  | some domain =>
      obtain rfl := hname domain rfl
      refine decidedBy_bind (decidedBy_verdicts hreadable domain [.notExpired]) fun _ _ => ?_
      by_cases hclosed : domain.domainType = .closed
      · rw [if_pos hclosed, Option.any_some, if_pos (decide_eq_true hclosed)]
        apply decidedBy_withContext
        rw [DomainGuard.evaluate_validate_found]
        exact decidedBy_bind_ok (decidedBy_verdicts hreadable domain [.admin signer])
          fun _ _ => ⟨domain, rfl⟩
      · rw [if_neg hclosed, Option.any_some, if_neg (by simpa using hclosed)]
        exact decidedBy_ok domain

theorem decidedBy_deletable (hreadable : situation.config.Readable situation.language)
    (hfound : Registry.domain? situation.store name = .ok domain?)
    (hname : ∀ domain ∈ domain?, domain.name = name) (hvalid : ∀ domain ∈ domain?, domain.Valid)
    (context : String) :
    DecidedBy
      ([.mustExist, .type .closed].map (DomainCheck.requirement situation.language situation.config
          situation.context name domain?) ++
        [⟨domain?.any fun domain => domain.admin = signer ∨ situation.context.Passed
            (domain.validUntil.toInt + situation.config.domainGrace.seconds.toNat),
          .gracePeriodNotFinished⟩])
      (Update.evaluate
        (do
          DomainGuard.validate situation [.mustExist, .type .closed]
          if (← (← get).domain).admin ≠ signer then
            (DomainGuard.validate situation [.gracePeriodFinished]).withContext context)
        (DomainGuard.of name)) := by
  rw [deletable_eq hfound hname]
  cases domain? with
  | none => exact ⟨_, rfl, rfl⟩
  | some domain =>
      obtain rfl := hname domain rfl
      refine decidedBy_bind (decidedBy_verdicts hreadable domain [.type .closed]) fun _ _ => ?_
      by_cases hadmin : domain.admin = signer
      · rw [if_neg (not_not.mpr hadmin), Option.any_some, decide_eq_true (Or.inl hadmin)]
        exact decidedBy_ok ()
      · have hmet : situation.context.Passed
            (DomainGuard.reclaimableAfter situation.config domain).toInt ↔
              domain.admin = signer ∨ situation.context.Passed
                (domain.validUntil.toInt + situation.config.domainGrace.seconds.toNat) := by
          rw [or_iff_right hadmin, ← isAfter_reclaimableAfter_iff (hvalid domain rfl),
            Context.isAfter_iff]
        have hgrace := decidedBy_verdicts hreadable domain [.gracePeriodFinished]
        rw [List.map_singleton, DomainCheck.requirement, Option.any_some,
          decide_eq_decide.mpr hmet] at hgrace
        rw [if_pos hadmin, ← bind_pure ((DomainGuard.validate situation _).withContext context)]
        apply decidedBy_withContext
        rw [DomainGuard.evaluate_validate_found]
        exact decidedBy_bind_ok hgrace fun _ _ => ⟨(), rfl⟩

theorem decidedBy_onDomain (hreadable : situation.config.Readable situation.language)
    (hfound : Registry.domain? situation.store name = .ok domain?)
    (hname : ∀ domain ∈ domain?, domain.name = name) (hvalid : ∀ domain ∈ domain?, domain.Valid)
    (action : DomainAction) :
    DecidedBy
      (action.requirements situation.language situation.config situation.context signer name
        domain?)
      (onDomain situation signer name action) := by
  cases action with
  | register domainType broker =>
      refine decidedBy_cons (decidedBy_named _) fun _ _ => decidedBy_bind_ok ?_ fun _ _ => ⟨_, rfl⟩
      rw [DomainGuard.evaluate_validate_new situation hfound]
      cases domain? with
      | none => exact DomainGuard.decidedBy_validName hreadable (.of name) none
      | some domain => exact ⟨_, rfl, rfl⟩
  | renew =>
      exact decidedBy_bind_ok (decidedBy_loadDomain hreadable hfound hname _) fun _ _ => ⟨_, rfl⟩
  | delete =>
      exact decidedBy_bind_ok (decidedBy_deletable hreadable hfound hname hvalid _)
        fun _ _ => ⟨_, rfl⟩
  | transfer newAdmin flag =>
      refine decidedBy_cons (decidedBy_named _) fun _ _ => ?_
      exact decidedBy_bind_ok (decidedBy_loadDomain hreadable hfound hname _) fun _ _ => ⟨_, rfl⟩
  | flush =>
      exact decidedBy_bind_ok (decidedBy_loadDomain hreadable hfound hname _) fun _ _ => ⟨_, rfl⟩

theorem decidedBy_onAccount (hreadable : situation.config.Readable situation.language)
    (hfound : Registry.domain? situation.store domainName = .ok domain?)
    (hname : ∀ domain ∈ domain?, domain.name = domainName)
    (hfound' : Registry.account? situation.store domainName name = .ok account?)
    (action : AccountAction) :
    DecidedBy
      (action.requirements situation.language situation.config situation.context signer domainName
        name ⟨domain?, account?⟩)
      (onAccount situation signer domainName name action) := by
  have hload := decidedBy_loadDomain hreadable hfound hname []
  have hdomain {domain : Domain} (hok : loadDomain situation domainName [.mustExist] = .ok domain) :
      domain? = some domain := ((loadDomain_eq_ok_iff hfound hname).mp hok).1
  cases action with
  | register owner targets broker =>
      refine decidedBy_cons (decidedBy_named _) fun _ _ => ?_
      refine decidedBy_bind (decidedBy_openToRegistration hreadable hfound hname) fun _ _ => ?_
      refine decidedBy_bind_ok ?_ fun _ _ => ⟨_, rfl⟩
      rw [AccountGuard.evaluate_validate_new situation targets hfound']
      cases account? with
      | none =>
          let guard := AccountGuard.of domainName name none
          have htests : ∀ check ∈ [AccountCheck.validName, .validTargets targets],
              DecidedBy
                (check.requirements situation.language situation.config situation.context name
                  domain? none)
                (guard.test situation check) :=
            List.forall_mem_cons.mpr ⟨AccountGuard.decidedBy_validName hreadable guard,
              List.forall_mem_singleton.mpr
                (AccountGuard.decidedBy_validTargets hreadable guard targets)⟩
          exact decidedBy_forM htests
      | some account => exact ⟨_, rfl, rfl⟩
  | renew =>
      refine decidedBy_bind hload fun _ _ => ?_
      exact decidedBy_bind_ok
        (decidedBy_loadAccount hreadable hfound' (by simp) (by simp)) fun _ _ => ⟨_, rfl⟩
  | delete =>
      refine decidedBy_bind hload fun domain hok => decidedBy_bind_ok ?_ fun _ _ => ⟨_, rfl⟩
      obtain rfl := hdomain hok
      exact decidedBy_loadAccount_notRoot
        (decidedBy_loadAccount hreadable hfound' (by simp) (by simp))
  | transfer newOwner reset =>
      refine decidedBy_cons (decidedBy_named _) fun _ _ => ?_
      refine decidedBy_bind hload fun domain hok => decidedBy_bind_ok ?_ fun _ _ => ⟨_, rfl⟩
      obtain rfl := hdomain hok
      exact decidedBy_loadAccount_notRoot
        (decidedBy_loadAccount hreadable hfound' (by simp) (by simp))
  | addCertificate certificate =>
      exact decidedBy_bind_ok
        (decidedBy_loadAccount hreadable hfound' (by simp) (by simp [AccountCheck.onParent]))
        fun _ _ => ⟨_, rfl⟩
  | deleteCertificate certificate =>
      rw [deleteCertificate_eq hfound']
      cases account? with
      | none => exact ⟨_, rfl, rfl⟩
      | some account =>
          change DecidedBy ([⟨account.owner = signer, .unauthorized⟩] ++
            [⟨certificate ∈ account.certificates, .certificateDoesNotExist⟩]) _
          refine decidedBy_bind (decidedBy_bind_ok (decidedBy_require _ _ Iff.rfl)
            fun _ _ => ⟨(), rfl⟩) fun _ _ => ?_
          cases hposition : account.certificates.idxOf? certificate with
          | none =>
              rw [decide_eq_false (List.idxOf?_eq_none_iff.mp hposition)]
              exact ⟨_, rfl, rfl⟩
          | some position =>
              have hmem : certificate ∈ account.certificates := by
                rw [← List.isSome_idxOf?, hposition]
                rfl
              rw [decide_eq_true hmem]
              exact decidedBy_ok _
  | replaceTargets targets =>
      refine decidedBy_bind hload fun domain hok => decidedBy_bind_ok ?_ fun _ _ => ⟨_, rfl⟩
      obtain rfl := hdomain hok
      simp only [Option.any_some, decide_eq_true_eq]
      refine decidedBy_loadAccount hreadable hfound' (fun certificate => ?_) (by simp)
      split <;> simp
  | replaceMetadata uri =>
      exact decidedBy_bind_ok
        (decidedBy_loadAccount hreadable hfound' (by simp) (by simp [AccountCheck.onParent]))
        fun _ _ => ⟨_, rfl⟩

end Loading

theorem decidedBy_onMessage {situation : Situation Store} {records : Records}
    (hreadable : situation.config.Readable situation.language)
    (h : Consistent situation.store records) (message : Message) :
    ∃ lookup, message.action.lookUp situation.store = .ok lookup ∧
      DecidedBy
        (message.action.requirements situation.language situation.config situation.context
          message.signer lookup)
        (onMessage situation message) := by
  have hname (name : String) : ∀ domain ∈ records.domain? name, domain.name = name :=
    fun domain hdomain => (h.sound.domains hdomain).1
  obtain ⟨signer, feePayer, action⟩ := message
  cases action with
  | domain name action =>
      have hfound := h.holds.domain?_eq h.sound name
      refine ⟨⟨records.domain? name, none⟩, ?_, ?_⟩
      · rw [Action.lookUp, hfound]
        rfl
      · exact decidedBy_onDomain hreadable hfound (hname name)
          (fun domain hdomain => (h.sound.domains hdomain).2) action
  | account domainName name action =>
      have hfound := h.holds.domain?_eq h.sound domainName
      obtain ⟨account?, hfound', _⟩ := found_account h.holds h.sound domainName name
      refine ⟨⟨records.domain? domainName, account?⟩, ?_, ?_⟩
      · rw [Action.lookUp, hfound, hfound']
        rfl
      · exact decidedBy_onAccount hreadable hfound (hname domainName) hfound' action

end Decision

theorem Delivered.decidedBy {language : PatternLanguage} {config : Config} {store : Store}
    (h : Delivered language config store)
    {collectFee : Context → Message → Address → Except Error Unit} {environment : Environment}
    (hfixed : Environment.fixed language config collectFee = .ok environment) (context : Context)
    (message : Message) :
    ∃ lookup, message.action.lookUp store = .ok lookup ∧
      DecidedBy (message.action.requirements language config context message.signer lookup)
        (Decision.onMessage (environment.situation context store) message) := by
  obtain ⟨records, hconsistent⟩ := h.reachable.consistent
  obtain ⟨hvalid, _⟩ := Environment.fixed_eq_ok hfixed
  rw [Environment.situation_of_fixed hfixed]
  let situation : Situation Store := ⟨language, config, context, store⟩
  have hreadable : situation.config.Readable situation.language :=
    Config.readable_of_validate hvalid
  exact Decision.decidedBy_onMessage hreadable hconsistent message

/-- A message that is paid for goes through if and only if everything is met that it requires, and
otherwise fails with the kind of the first requirement that is not met. -/
theorem Delivered.accepted_iff {language : PatternLanguage} {config : Config} {store : Store}
    (h : Delivered language config store)
    {collectFee : Context → Message → Address → Except Error Unit} {environment : Environment}
    (hfixed : Environment.fixed language config collectFee = .ok environment) (context : Context)
    (message : Message) (hmessage : message.action.Fits)
    (hpaid : collectFee context message message.payer = .ok ()) :
    ∃ lookup, message.action.lookUp store = .ok lookup ∧
      ((environment.deliver context message store).result = .ok () ↔
        ∀ requirement ∈
            message.action.requirements language config context message.signer lookup,
          requirement.met = true) ∧
      ∀ requirement,
        (message.action.requirements language config context message.signer lookup).find?
            (fun requirement => !requirement.met) = some requirement →
          ∃ error, (environment.deliver context message store).result = .error (.error error) ∧
            error.kind = requirement.kind := by
  obtain ⟨records, hconsistent⟩ := h.reachable.consistent
  obtain ⟨lookup, hlookup, hdecided⟩ := h.decidedBy hfixed context message
  have hcharge : (environment.charge context message).1 = .ok () := by
    rw [Environment.charge_of_fixed hfixed, hpaid]
    rfl
  have hresult :
      DecidedBy (message.action.requirements language config context message.signer lookup)
        (environment.deliver context message store).result := by
    rw [Environment.result_deliver_eq hfixed hconsistent context hmessage, hcharge]
    exact decidedBy_bind_ok hdecided fun _ _ => ⟨(), rfl⟩
  refine ⟨lookup, hlookup, ?_, fun _ => hresult.eq_error⟩
  rw [← hresult.eq_ok_iff]
  exact ⟨fun hok => ⟨(), hok⟩, fun ⟨_, hok⟩ => hok⟩

/-- Bob may not hand over Alice's domain, which is what he is told; that it has expired comes
after it. -/
theorem accepted_sample_refused :
    let message : Message := ⟨Sample.bob, none, .domain "bank" (.transfer Sample.bob .leave)⟩
    let bank : Domain := ⟨"bank", Sample.alice, 1100, .closed, 500, none⟩
    message.action.lookUp Sample.store = .ok ⟨some bank, none⟩ ∧
      (message.action.requirements Pattern.language Config.testing (Sample.block 2000) Sample.bob
          ⟨some bank, none⟩).map Requirement.met = [true, true, true, false, false] ∧
      ∃ error, (Sample.ledger.deliver (Sample.block 2000) message Sample.store).result =
        .error (.error error) ∧ error.kind = .unauthorized := by
  intro message bank
  obtain ⟨lookup, hlookup, _, hfirst⟩ := Delivered.accepted_iff Sample.delivered_store
    Sample.fixed_ledger (Sample.block 2000) message (by decide) rfl
  have hfound : message.action.lookUp Sample.store = .ok ⟨some bank, none⟩ := by decide +kernel
  obtain rfl := Except.ok.inj (hlookup.symm.trans hfound)
  exact ⟨hfound, by decide +kernel, hfirst ⟨false, .unauthorized⟩ (by decide +kernel)⟩

end NameRegistry
