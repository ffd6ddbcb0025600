import NameRegistry.Proofs.Delivery.Change
import NameRegistry.Proofs.Guard.Account
import NameRegistry.Proofs.Time

namespace NameRegistry

namespace Decision

section Loading

variable {σ : Type} [KeyValueStore σ] {situation : Situation σ}

theorem loadDomain_eq_ok_iff {name : String} {found? : Option Domain} {domain : Domain}
    (hfound : Registry.domain? situation.store name = .ok found?)
    (hname : ∀ domain ∈ found?, domain.name = name) {checks : List DomainCheck} :
    loadDomain situation name (.mustExist :: checks) = .ok domain ↔
      found? = some domain ∧
        ∀ condition ∈ checks,
          condition.Passes situation.language situation.config situation.context domain := by
  rw [loadDomain, DomainGuard.evaluate_validate situation hfound hname]
  cases found? with
  | none => exact ⟨nofun, nofun⟩
  | some domain' =>
      have htake : Update.evaluate (do (← get).take) (DomainGuard.found domain') = .ok domain' :=
        rfl
      rw [Option.elim_some]
      rw [htake, bind_eq_ok_iff]
      simp only [forM_eq_ok_iff, DomainGuard.verdict_eq_ok_iff]
      constructor
      · rintro ⟨_, hpasses, heq⟩
        obtain rfl := Except.ok.inj heq
        exact ⟨rfl, hpasses⟩
      · rintro ⟨heq, hpasses⟩
        obtain rfl := Option.some.inj heq
        exact ⟨(), hpasses, rfl⟩

theorem loadAccount_eq_ok_iff {domainName name : String} {parent : Option Domain}
    {found? : Option Account} {account : Account}
    (hfound : Registry.account? situation.store domainName name = .ok found?)
    {checks : List AccountCheck}
    (hchecks : ∀ certificate, .certificateExists certificate ∉ checks) :
    loadAccount situation domainName name parent (.mustExist :: checks) = .ok account ↔
      found? = some account ∧
        ∀ condition ∈ checks, condition.Passes situation.language situation.config
          situation.context (AccountGuard.of domainName name parent) account := by
  rw [loadAccount, AccountGuard.evaluate_validate situation hfound]
  cases found? with
  | none => exact ⟨nofun, nofun⟩
  | some account' =>
      rw [Option.elim_some]
      rw [AccountGuard.evaluate_validate_found situation _ account' hchecks, bind_eq_ok_iff]
      simp only [forM_eq_ok_iff, AccountGuard.verdict_eq_ok_iff]
      constructor
      · rintro ⟨_, hpasses, heq⟩
        obtain rfl := Except.ok.inj heq
        exact ⟨rfl, hpasses⟩
      · rintro ⟨heq, hpasses⟩
        obtain rfl := Option.some.inj heq
        exact ⟨(), hpasses, rfl⟩

theorem loadAccount_notRoot_eq {domainName name : String} {parent : Option Domain}
    {checks : List AccountCheck} :
    loadAccount situation domainName name parent (.notRoot :: checks) = (do
      require (name ≠ "") .invalidRequest
        s!"{fullName domainName name} is the root account of its domain"
      loadAccount situation domainName name parent checks) := by
  have hsteps : AccountGuard.validate situation (.notRoot :: checks) =
      AccountGuard.check situation .notRoot >>= fun _ =>
        AccountGuard.validate situation checks := rfl
  let guard := AccountGuard.of domainName name parent
  have hcheck : AccountGuard.check situation .notRoot guard =
      (liftM (require (name ≠ "") .invalidRequest
        s!"{guard.fullName} is the root account of its domain") : Update AccountGuard Unit) guard :=
    rfl
  rw [loadAccount, hsteps, bind_assoc, Update.evaluate_bind, hcheck]
  by_cases hname : name = ""
  · subst hname
    rfl
  · rw [require, if_pos (decide_eq_true hname), require, if_pos (decide_eq_true hname)]
    rfl

theorem loadAccount_notRoot {domainName name : String} {parent : Option Domain}
    {checks : List AccountCheck} {account : Account} :
    loadAccount situation domainName name parent (.notRoot :: checks) = .ok account ↔
      name ≠ "" ∧ loadAccount situation domainName name parent checks = .ok account := by
  rw [loadAccount_notRoot_eq, bind_eq_ok_iff]
  constructor
  · rintro ⟨_, hname, hload⟩
    exact ⟨of_decide_eq_true (require_eq_ok_iff.mp (lift_eq_ok_iff.mp hname)), hload⟩
  · rintro ⟨hname, hload⟩
    exact ⟨(), lift_eq_ok_iff.mpr (require_eq_ok_iff.mpr (decide_eq_true hname)), hload⟩

theorem openToRegistration_eq {signer : Address} {name : String} {found? : Option Domain}
    (hfound : Registry.domain? situation.store name = .ok found?)
    (hname : ∀ domain ∈ found?, domain.name = name) :
    openToRegistration situation signer name =
      found?.elim (.error (.error ⟨.domainDoesNotExist, name⟩)) fun domain =>
        [.notExpired].forM (DomainGuard.verdict situation domain) >>= fun _ =>
          Update.evaluate
            (if domain.domainType = .closed then do
              (DomainGuard.validate situation [.admin signer]).withContext
                "closed domains only accept registrations from their admin"
              (← get).take
            else do (← get).take) (DomainGuard.found domain) := by
  rw [openToRegistration, DomainGuard.evaluate_validate situation hfound hname]
  rfl

theorem openToRegistration_eq_ok_iff {signer : Address} {name : String} {found? : Option Domain}
    {domain : Domain} (hfound : Registry.domain? situation.store name = .ok found?)
    (hname : ∀ domain ∈ found?, domain.name = name) :
    openToRegistration situation signer name = .ok domain ↔
      found? = some domain ∧ domain.isExpired situation.context = false ∧
        (domain.domainType = .closed → domain.admin = signer) := by
  rw [openToRegistration_eq hfound hname]
  cases found? with
  | none => exact ⟨nofun, nofun⟩
  | some domain' =>
      have hguard : Update.evaluate
          (if domain'.domainType = .closed then do
            (DomainGuard.validate situation [.admin signer]).withContext
              "closed domains only accept registrations from their admin"
            (← get).take
          else do (← get).take) (DomainGuard.found domain') = .ok domain ↔
            domain' = domain ∧ (domain'.domainType = .closed → domain'.admin = signer) := by
        split
        · rename_i hclosed
          rw [Update.evaluate_withContext_eq_ok_iff, DomainGuard.evaluate_validate_found,
            bind_eq_ok_iff]
          simp only [forM_eq_ok_iff, DomainGuard.verdict_eq_ok_iff, List.forall_mem_singleton,
            DomainCheck.Passes]
          constructor
          · rintro ⟨_, hadmin, htake⟩
            exact ⟨Except.ok.inj htake, fun _ => hadmin⟩
          · rintro ⟨rfl, hadmin⟩
            exact ⟨(), hadmin hclosed, rfl⟩
        · rename_i hopened
          constructor
          · intro htake
            exact ⟨Except.ok.inj htake, fun hclosed => absurd hclosed hopened⟩
          · rintro ⟨rfl, _⟩
            rfl
      rw [Option.elim_some]
      rw [bind_eq_ok_iff]
      simp only [forM_eq_ok_iff, DomainGuard.verdict_eq_ok_iff, List.forall_mem_singleton,
        DomainCheck.Passes, hguard]
      constructor
      · rintro ⟨_, hexpired, rfl, hadmin⟩
        exact ⟨rfl, hexpired, hadmin⟩
      · rintro ⟨heq, hexpired, hadmin⟩
        obtain rfl := Option.some.inj heq
        exact ⟨(), hexpired, rfl, hadmin⟩

theorem deletable_eq {signer : Address} {name context : String} {found? : Option Domain}
    (hfound : Registry.domain? situation.store name = .ok found?)
    (hname : ∀ domain ∈ found?, domain.name = name) :
    Update.evaluate
        (do
          DomainGuard.validate situation [.mustExist, .type .closed]
          if (← (← get).domain).admin ≠ signer then
            (DomainGuard.validate situation [.gracePeriodFinished]).withContext context)
        (DomainGuard.of name) =
      found?.elim (.error (.error ⟨.domainDoesNotExist, name⟩)) fun domain =>
        [.type .closed].forM (DomainGuard.verdict situation domain) >>= fun _ =>
          Update.evaluate
            (if domain.admin ≠ signer then
              (DomainGuard.validate situation [.gracePeriodFinished]).withContext context
            else pure ()) (DomainGuard.found domain) := by
  rw [DomainGuard.evaluate_validate situation hfound hname]
  rfl

theorem deletable_eq_ok_iff {signer : Address} {name context : String} {found? : Option Domain}
    (hfound : Registry.domain? situation.store name = .ok found?)
    (hname : ∀ domain ∈ found?, domain.name = name) :
    Update.evaluate
        (do
          DomainGuard.validate situation [.mustExist, .type .closed]
          if (← (← get).domain).admin ≠ signer then
            (DomainGuard.validate situation [.gracePeriodFinished]).withContext context)
        (DomainGuard.of name) = .ok () ↔
      ∃ domain, found? = some domain ∧ domain.domainType = .closed ∧
        (domain.admin = signer ∨
          situation.context.isAfter (DomainGuard.reclaimableAfter situation.config domain)) := by
  rw [deletable_eq hfound hname]
  cases found? with
  | none => exact ⟨nofun, nofun⟩
  | some domain =>
      have hgrace : Update.evaluate
          (if domain.admin ≠ signer then
            (DomainGuard.validate situation [.gracePeriodFinished]).withContext context
          else pure ()) (DomainGuard.found domain) = .ok () ↔
            domain.admin = signer ∨
              situation.context.isAfter (DomainGuard.reclaimableAfter situation.config domain) := by
        split
        · rename_i hadmin
          rw [← bind_pure ((DomainGuard.validate situation _).withContext context),
            Update.evaluate_withContext_eq_ok_iff, DomainGuard.evaluate_validate_found,
            bind_eq_ok_iff]
          simp only [forM_eq_ok_iff, DomainGuard.verdict_eq_ok_iff, List.forall_mem_singleton,
            DomainCheck.Passes]
          constructor
          · rintro ⟨_, hgrace, _⟩
            exact Or.inr hgrace
          · intro hallowed
            exact ⟨(), hallowed.resolve_left hadmin, rfl⟩
        · rename_i hadmin
          exact ⟨fun _ => Or.inl (Decidable.not_not.mp hadmin), fun _ => rfl⟩
      rw [Option.elim_some]
      rw [bind_eq_ok_iff]
      simp only [forM_eq_ok_iff, DomainGuard.verdict_eq_ok_iff, List.forall_mem_singleton,
        DomainCheck.Passes, hgrace]
      constructor
      · rintro ⟨_, htype, hallowed⟩
        exact ⟨domain, rfl, htype, hallowed⟩
      · rintro ⟨_, heq, htype, hallowed⟩
        obtain rfl := Option.some.inj heq
        exact ⟨(), htype, hallowed⟩

theorem deleteCertificate_eq {signer : Address} {domainName name : String} {certificate : Bytes}
    {found? : Option Account}
    (hfound : Registry.account? situation.store domainName name = .ok found?) :
    onAccount situation signer domainName name (.deleteCertificate certificate) =
      found?.elim (.error (.error ⟨.accountDoesNotExist, fullName domainName name⟩))
        fun account =>
          [.owner signer].forM (AccountGuard.verdict situation
            (AccountGuard.of domainName name none) account) >>= fun _ =>
              (account.certificates.idxOf? certificate).elim
                (.error (.error ⟨.certificateDoesNotExist,
                  s!"{Hex.encode certificate} on account {fullName domainName name}"⟩))
                fun position => .ok (.deleteCertificate account position) := by
  rw [onAccount, AccountGuard.evaluate_validate situation hfound]
  cases found? with
  | none => rfl
  | some account =>
      have hsteps :
          AccountGuard.validate situation [.owner signer, .certificateExists certificate] =
          AccountGuard.validate situation [.owner signer] >>= fun _ =>
            AccountGuard.check situation (.certificateExists certificate) := by
        change (AccountGuard.check situation (.owner signer) >>= fun _ =>
            AccountGuard.check situation (.certificateExists certificate) >>= fun _ => pure ()) =
          (AccountGuard.check situation (.owner signer) >>= fun _ => pure ()) >>= fun _ =>
            AccountGuard.check situation (.certificateExists certificate)
        simp only [bind_assoc, pure_bind]
        exact congrArg _ (funext fun _ => bind_pure _)
      rw [Option.elim_some, hsteps, bind_assoc,
        AccountGuard.evaluate_validate_found situation _ account (by simp)]
      refine congrArg _ (funext fun _ => ?_)
      rw [Update.evaluate_bind, AccountGuard.check_certificateExists]
      cases account.certificates.idxOf? certificate <;> rfl

theorem deleteCertificate_eq_ok_iff {signer : Address} {domainName name : String}
    {certificate : Bytes} {found? : Option Account} {change : Change}
    (hfound : Registry.account? situation.store domainName name = .ok found?) :
    onAccount situation signer domainName name (.deleteCertificate certificate) = .ok change ↔
      ∃ account position, found? = some account ∧ account.owner = signer ∧
        account.certificates.idxOf? certificate = some position ∧
          change = .deleteCertificate account position := by
  rw [deleteCertificate_eq hfound]
  cases found? with
  | none => exact ⟨nofun, nofun⟩
  | some account =>
      rw [Option.elim_some, bind_eq_ok_iff]
      simp only [forM_eq_ok_iff, AccountGuard.verdict_eq_ok_iff, List.forall_mem_singleton,
        AccountCheck.Passes]
      cases hposition : account.certificates.idxOf? certificate with
      | none =>
          constructor
          · rintro ⟨_, _, hfails⟩
            cases hfails
          · rintro ⟨_, _, heq, _, hfails, _⟩
            obtain rfl := Option.some.inj heq
            rw [hposition] at hfails
            cases hfails
      | some position =>
          constructor
          · rintro ⟨_, howner, hchange⟩
            obtain rfl := Except.ok.inj hchange
            exact ⟨account, position, rfl, howner, hposition, rfl⟩
          · rintro ⟨_, _, heq, howner, hposition', rfl⟩
            obtain rfl := Option.some.inj heq
            obtain rfl := Option.some.inj (hposition.symm.trans hposition')
            exact ⟨(), howner, rfl⟩

end Loading

/-- What has to be true of the records and the block for an action of `signer` to be accepted, with
the change that is then made. -/
inductive Granted (situation : Situation Store) (records : Records) (signer : Address) :
    Action → Change → Prop
  | registerDomain {name : String} {domainType : DomainType} {broker : Option Address} :
      signer ≠ Address.empty → records.domain? name = none →
      DomainGuard.isValidName situation.language situation.config name = .ok true →
      Granted situation records signer (.domain name (.register domainType broker))
        (.createDomain (newDomain situation name signer domainType broker)
          (rootAccount (newDomain situation name signer domainType broker)))
  | renewDomain {name : String} {domain : Domain} :
      records.domain? name = some domain →
      Granted situation records signer (.domain name .renew)
        (.setDomain { domain with
          validUntil := addSeconds domain.validUntil situation.config.domainRenewal.wholeSeconds })
  | deleteDomain {name : String} {domain : Domain} :
      records.domain? name = some domain → domain.domainType = .closed →
      (domain.admin = signer ∨
        situation.context.isAfter (DomainGuard.reclaimableAfter situation.config domain) = true) →
      Granted situation records signer (.domain name .delete) (.deleteDomain name)
  | transferDomain {name : String} {domain : Domain} {newAdmin : Address} {flag : TransferFlag} :
      newAdmin ≠ Address.empty → records.domain? name = some domain →
      domain.domainType = .closed → domain.admin = signer →
      domain.isExpired situation.context = false →
      Granted situation records signer (.domain name (.transfer newAdmin flag))
        (.transferDomain domain newAdmin flag)
  | flushDomain {name : String} {domain : Domain} :
      records.domain? name = some domain → domain.domainType = .closed → domain.admin = signer →
      domain.isExpired situation.context = false →
      Granted situation records signer (.domain name .flush) (.flushDomain name)
  | registerAccount {domainName name : String} {domain : Domain} {owner : Address}
      {targets : List Target} {broker : Option Address} :
      owner ≠ Address.empty → records.domain? domainName = some domain →
      domain.isExpired situation.context = false →
      (domain.domainType = .closed → domain.admin = signer) →
      records.account? domainName name = none →
      situation.config.validity.accepts situation.language .accountName name = .ok true →
      targets.length ≤ situation.config.targetsMax.toNat →
      AccountGuard.checkTargets situation.language situation.config.validity [] targets = .ok () →
      Granted situation records signer (.account domainName name (.register owner targets broker))
        (.createAccount { Account.plain domainName name owner
            (firstTerm situation domain.domainType) with
          targets := targets, broker := broker })
  | renewAccount {domainName name : String} {domain : Domain} {account : Account} :
      records.domain? domainName = some domain →
      records.account? domainName name = some account →
      Granted situation records signer (.account domainName name .renew)
        (.setAccount { account with
          validUntil := min (addSeconds account.validUntil domain.accountRenewal) neverExpires })
  | deleteAccount {domainName name : String} {domain : Domain} {account : Account} :
      records.domain? domainName = some domain → name ≠ "" →
      records.account? domainName name = some account →
      (account.owner = signer ∨ domain.admin = signer) →
      Granted situation records signer (.account domainName name .delete)
        (.deleteAccount domainName name)
  | transferAccount {domainName name : String} {domain : Domain} {account : Account}
      {newOwner : Address} {reset : Bool} :
      newOwner ≠ Address.empty → records.domain? domainName = some domain → name ≠ "" →
      records.account? domainName name = some account →
      account.isExpired situation.context = false →
      AccountGuard.mayTransfer domain account signer = true →
      Granted situation records signer (.account domainName name (.transfer newOwner reset))
        (.transferAccount account newOwner (reset || domain.domainType = .opened))
  | addCertificate {domainName name : String} {account : Account} {certificate : Bytes} :
      records.account? account.domain account.name = some account →
      Key.object account.domain account.name = Key.object domainName name →
      account.owner = signer → 1 ≤ certificate.length →
      certificate.length ≤ situation.config.certificateSizeMax.toNat →
      certificate ∉ account.certificates →
      account.certificates.length < situation.config.certificatesMax.toNat →
      Granted situation records signer (.account domainName name (.addCertificate certificate))
        (.addCertificate account certificate)
  | deleteCertificate {domainName name : String} {account : Account} {certificate : Bytes}
      {position : Nat} :
      records.account? account.domain account.name = some account →
      Key.object account.domain account.name = Key.object domainName name →
      account.owner = signer → account.certificates.idxOf? certificate = some position →
      Granted situation records signer (.account domainName name (.deleteCertificate certificate))
        (.deleteCertificate account position)
  | replaceTargets {domainName name : String} {domain : Domain} {account : Account}
      {targets : List Target} :
      records.domain? domainName = some domain →
      records.account? domainName name = some account → account.owner = signer →
      targets.length ≤ situation.config.targetsMax.toNat →
      AccountGuard.checkTargets situation.language situation.config.validity [] targets = .ok () →
      (domain.domainType = .opened → account.isExpired situation.context = false) →
      Granted situation records signer (.account domainName name (.replaceTargets targets))
        (.replaceTargets account targets)
  | replaceMetadata {domainName name : String} {account : Account} {uri : String} :
      records.account? account.domain account.name = some account →
      Key.object account.domain account.name = Key.object domainName name →
      account.owner = signer → Utf8.size uri ≤ situation.config.metadataSizeMax.toNat →
      Granted situation records signer (.account domainName name (.replaceMetadata uri))
        (.replaceMetadata account uri)

variable {situation : Situation Store} {records : Records} {signer : Address}

theorem granted_of_onDomain (h : Holds situation.store records) (hsound : records.Sound)
    {name : String} {action : DomainAction} {change : Change}
    (hdecision : onDomain situation signer name action = .ok change) :
    Granted situation records signer (.domain name action) change := by
  have hfound := h.domain?_eq hsound name
  have hname : ∀ domain ∈ records.domain? name, domain.name = name :=
    fun domain hdomain => (hsound.domains hdomain).1
  cases action with
  | register domainType broker =>
      obtain ⟨_, hsigner, hdecision⟩ := bind_eq_ok_iff.mp hdecision
      obtain ⟨_, hchecks, hdecision⟩ := bind_eq_ok_iff.mp hdecision
      obtain rfl := Except.ok.inj hdecision
      rw [lift_eq_ok_iff] at hsigner
      replace hsigner : signer ≠ Address.empty := by
        simpa [Address.isEmpty] using require_eq_ok_iff.mp hsigner
      rw [DomainGuard.evaluate_validate_new situation hfound] at hchecks
      cases hnew : records.domain? name with
      | some domain =>
          rw [hnew] at hchecks
          cases hchecks
      | none =>
          rw [hnew] at hchecks
          exact .registerDomain hsigner hnew (lift_require_eq_ok_iff.mp hchecks)
  | renew =>
      obtain ⟨domain, hload, hdecision⟩ := bind_eq_ok_iff.mp hdecision
      obtain ⟨hdomain, _⟩ := (loadDomain_eq_ok_iff hfound hname).mp hload
      obtain rfl := Except.ok.inj hdecision
      exact .renewDomain hdomain
  | delete =>
      obtain ⟨_, hchecks, hdecision⟩ := bind_eq_ok_iff.mp hdecision
      obtain ⟨domain, hdomain, htype, hallowed⟩ := (deletable_eq_ok_iff hfound hname).mp hchecks
      obtain rfl := Except.ok.inj hdecision
      exact .deleteDomain hdomain htype hallowed
  | transfer newAdmin flag =>
      obtain ⟨_, hnewAdmin, hdecision⟩ := bind_eq_ok_iff.mp hdecision
      obtain ⟨domain, hload, hdecision⟩ := bind_eq_ok_iff.mp hdecision
      obtain ⟨hdomain, hpasses⟩ := (loadDomain_eq_ok_iff hfound hname).mp hload
      obtain rfl := Except.ok.inj hdecision
      rw [lift_eq_ok_iff] at hnewAdmin
      replace hnewAdmin : newAdmin ≠ Address.empty := by
        simpa [Address.isEmpty] using require_eq_ok_iff.mp hnewAdmin
      simp only [List.forall_mem_cons, DomainCheck.Passes] at hpasses
      obtain ⟨htype, hadmin, hexpired, _⟩ := hpasses
      exact .transferDomain hnewAdmin hdomain htype hadmin hexpired
  | flush =>
      obtain ⟨domain, hload, hdecision⟩ := bind_eq_ok_iff.mp hdecision
      obtain ⟨hdomain, hpasses⟩ := (loadDomain_eq_ok_iff hfound hname).mp hload
      obtain rfl := Except.ok.inj hdecision
      simp only [List.forall_mem_cons, DomainCheck.Passes] at hpasses
      obtain ⟨htype, hadmin, hexpired, _⟩ := hpasses
      rw [hname domain hdomain]
      exact .flushDomain hdomain htype hadmin hexpired

theorem found_account (h : Holds situation.store records) (hsound : records.Sound)
    (domainName name : String) :
    ∃ found?, Registry.account? situation.store domainName name = .ok found? ∧
      ∀ account, found? = some account →
        records.account? account.domain account.name = some account ∧
          Key.object account.domain account.name = Key.object domainName name := by
  obtain ⟨domain', name', hplain, hobject⟩ := Key.exists_plain_object domainName name
  refine ⟨_, h.account?_of_object hsound hplain hobject, fun account haccount => ?_⟩
  obtain ⟨rfl, rfl, _⟩ := hsound.accounts haccount
  exact ⟨haccount, hobject⟩

theorem granted_of_onAccount (h : Holds situation.store records) (hsound : records.Sound)
    {domainName name : String} {action : AccountAction} {change : Change}
    (hdecision : onAccount situation signer domainName name action = .ok change) :
    Granted situation records signer (.account domainName name action) change := by
  have hdomain? := h.domain?_eq hsound domainName
  have hname : ∀ domain ∈ records.domain? domainName, domain.name = domainName :=
    fun domain hdomain => (hsound.domains hdomain).1
  have hplain {domain : Domain} (hdomain : records.domain? domainName = some domain) :
      Registry.account? situation.store domainName name =
        .ok (records.account? domainName name) := by
    obtain ⟨rfl, hvalid⟩ := hsound.domains hdomain
    exact h.account?_eq hsound hvalid.plain name
  obtain ⟨found?, hfound?, hfound⟩ := found_account h hsound domainName name
  cases action with
  | register owner targets broker =>
      obtain ⟨_, howner, hdecision⟩ := bind_eq_ok_iff.mp hdecision
      obtain ⟨domain, hopen, hdecision⟩ := bind_eq_ok_iff.mp hdecision
      obtain ⟨_, hchecks, hdecision⟩ := bind_eq_ok_iff.mp hdecision
      obtain ⟨hdomain, hexpired, hadmin⟩ :=
        (openToRegistration_eq_ok_iff hdomain? hname).mp hopen
      obtain rfl := Except.ok.inj hdecision
      rw [lift_eq_ok_iff] at howner
      replace howner : owner ≠ Address.empty := by
        simpa [Address.isEmpty] using require_eq_ok_iff.mp howner
      rw [AccountGuard.evaluate_validate_new situation targets (hplain hdomain)] at hchecks
      cases hnew : records.account? domainName name with
      | some account =>
          rw [hnew] at hchecks
          cases hchecks
      | none =>
          rw [hnew, Option.elim_none, forM_eq_ok_iff] at hchecks
          simp only [List.forall_mem_cons] at hchecks
          obtain ⟨hvalidName, hvalidTargets, _⟩ := hchecks
          obtain ⟨hcount, htargets⟩ :=
            (AccountGuard.test_validTargets_eq_ok_iff _).mp hvalidTargets
          exact .registerAccount howner hdomain hexpired hadmin hnew
            (lift_require_eq_ok_iff.mp hvalidName) hcount htargets
  | renew =>
      obtain ⟨domain, hload, hdecision⟩ := bind_eq_ok_iff.mp hdecision
      obtain ⟨account, hloadAccount, hdecision⟩ := bind_eq_ok_iff.mp hdecision
      obtain ⟨hdomain, _⟩ := (loadDomain_eq_ok_iff hdomain? hname).mp hload
      obtain ⟨haccount, _⟩ := (loadAccount_eq_ok_iff (hplain hdomain) (by simp)).mp hloadAccount
      obtain rfl := Except.ok.inj hdecision
      exact .renewAccount hdomain haccount
  | delete =>
      obtain ⟨domain, hload, hdecision⟩ := bind_eq_ok_iff.mp hdecision
      obtain ⟨account, hloadAccount, hdecision⟩ := bind_eq_ok_iff.mp hdecision
      obtain ⟨hdomain, _⟩ := (loadDomain_eq_ok_iff hdomain? hname).mp hload
      obtain ⟨hroot, hloadAccount⟩ := loadAccount_notRoot.mp hloadAccount
      obtain ⟨haccount, hpasses⟩ :=
        (loadAccount_eq_ok_iff (hplain hdomain) (by simp)).mp hloadAccount
      obtain rfl := Except.ok.inj hdecision
      simp only [List.forall_mem_cons, AccountCheck.Passes] at hpasses
      obtain ⟨⟨_, hparent, hallowed⟩, _⟩ := hpasses
      obtain rfl := Option.some.inj hparent
      exact .deleteAccount hdomain hroot haccount hallowed
  | transfer newOwner reset =>
      obtain ⟨_, hnewOwner, hdecision⟩ := bind_eq_ok_iff.mp hdecision
      obtain ⟨domain, hload, hdecision⟩ := bind_eq_ok_iff.mp hdecision
      obtain ⟨account, hloadAccount, hdecision⟩ := bind_eq_ok_iff.mp hdecision
      obtain ⟨hdomain, _⟩ := (loadDomain_eq_ok_iff hdomain? hname).mp hload
      obtain ⟨hroot, hloadAccount⟩ := loadAccount_notRoot.mp hloadAccount
      obtain ⟨haccount, hpasses⟩ :=
        (loadAccount_eq_ok_iff (hplain hdomain) (by simp)).mp hloadAccount
      obtain rfl := Except.ok.inj hdecision
      rw [lift_eq_ok_iff] at hnewOwner
      replace hnewOwner : newOwner ≠ Address.empty := by
        simpa [Address.isEmpty] using require_eq_ok_iff.mp hnewOwner
      simp only [List.forall_mem_cons, AccountCheck.Passes] at hpasses
      obtain ⟨hexpired, ⟨_, hparent, hallowed⟩, _⟩ := hpasses
      obtain rfl := Option.some.inj hparent
      exact .transferAccount hnewOwner hdomain hroot haccount hexpired hallowed
  | addCertificate certificate =>
      obtain ⟨account, hloadAccount, hdecision⟩ := bind_eq_ok_iff.mp hdecision
      obtain ⟨haccount, hpasses⟩ := (loadAccount_eq_ok_iff hfound? (by simp)).mp hloadAccount
      obtain rfl := Except.ok.inj hdecision
      obtain ⟨haccount, hobject⟩ := hfound account haccount
      simp only [List.forall_mem_cons, AccountCheck.Passes] at hpasses
      obtain ⟨howner, ⟨hsome, hsize⟩, hnew, hcount, _⟩ := hpasses
      exact .addCertificate haccount hobject howner hsome hsize hnew hcount
  | deleteCertificate certificate =>
      obtain ⟨account, position, haccount, howner, hposition, rfl⟩ :=
        (deleteCertificate_eq_ok_iff hfound?).mp hdecision
      obtain ⟨haccount, hobject⟩ := hfound account haccount
      exact .deleteCertificate haccount hobject howner hposition
  | replaceTargets targets =>
      obtain ⟨domain, hload, hdecision⟩ := bind_eq_ok_iff.mp hdecision
      obtain ⟨account, hloadAccount, hdecision⟩ := bind_eq_ok_iff.mp hdecision
      obtain ⟨hdomain, _⟩ := (loadDomain_eq_ok_iff hdomain? hname).mp hload
      have hchecks (certificate : Bytes) : .certificateExists certificate ∉
          [.owner signer, .validTargets targets] ++
            (if domain.domainType = .opened then [AccountCheck.notExpired] else []) := by
        split <;> simp
      obtain ⟨haccount, hpasses⟩ :=
        (loadAccount_eq_ok_iff (hplain hdomain) hchecks).mp hloadAccount
      obtain rfl := Except.ok.inj hdecision
      simp only [List.forall_mem_append, List.forall_mem_cons, AccountCheck.Passes] at hpasses
      obtain ⟨⟨howner, ⟨hcount, htargets⟩, _⟩, hexpiry⟩ := hpasses
      refine .replaceTargets hdomain haccount howner hcount htargets fun hopened => ?_
      rw [if_pos hopened] at hexpiry
      exact hexpiry .notExpired (by simp)
  | replaceMetadata uri =>
      obtain ⟨account, hloadAccount, hdecision⟩ := bind_eq_ok_iff.mp hdecision
      obtain ⟨haccount, hpasses⟩ := (loadAccount_eq_ok_iff hfound? (by simp)).mp hloadAccount
      obtain rfl := Except.ok.inj hdecision
      obtain ⟨haccount, hobject⟩ := hfound account haccount
      simp only [List.forall_mem_cons, AccountCheck.Passes] at hpasses
      obtain ⟨howner, hsize, _⟩ := hpasses
      exact .replaceMetadata haccount hobject howner hsize

theorem granted_of_onMessage (h : Holds situation.store records) (hsound : records.Sound)
    {message : Message} {change : Change} (hdecision : onMessage situation message = .ok change) :
    Granted situation records message.signer message.action change := by
  obtain ⟨signer, feePayer, action⟩ := message
  cases action with
  | domain name action => exact granted_of_onDomain h hsound hdecision
  | account domainName name action => exact granted_of_onAccount h hsound hdecision

end Decision

end NameRegistry
