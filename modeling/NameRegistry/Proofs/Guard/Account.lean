import NameRegistry.Proofs.Guard.Domain
import NameRegistry.Proofs.Key.Slot

namespace NameRegistry

namespace AccountGuard

theorem checkTargets_cons_eq_ok_iff {language : PatternLanguage} {validity : Validity}
    {seen : List String} {target : Target} {rest : List Target} :
    checkTargets language validity seen (target :: rest) = .ok () ↔
      validity.accepts language .blockchainId target.id = .ok true ∧
        validity.accepts language .blockchainAddress target.address = .ok true ∧ target.Packable ∧
          target.id ∉ seen ∧ checkTargets language validity (target.id :: seen) rest = .ok () := by
  simp only [checkTargets, bind_eq_ok_iff]
  constructor
  · rintro ⟨valid, hid, _, hvalid, valid', haddress, _, hvalid', hrest⟩
    obtain rfl := require_eq_ok_iff.mp hvalid
    obtain rfl := require_eq_ok_iff.mp hvalid'
    cases hsubject : Key.targetSubject target with
    | error error =>
        rw [hsubject] at hrest
        cases hrest
    | ok subject =>
        rw [hsubject] at hrest
        obtain ⟨_, hseen, hrest⟩ := bind_eq_ok_iff.mp hrest
        refine ⟨hid, haddress, (Key.targetSubject_eq_ok_iff.mp hsubject).1, ?_, hrest⟩
        simpa using require_eq_ok_iff.mp hseen
  · rintro ⟨hid, haddress, hpackable, hseen, hrest⟩
    refine ⟨true, hid, (), rfl, true, haddress, (), rfl, ?_⟩
    rw [Key.targetSubject_eq_ok_iff.mpr ⟨hpackable, rfl⟩]
    exact bind_eq_ok_iff.mpr ⟨(), require_eq_ok_iff.mpr (by simpa using hseen), hrest⟩

theorem checkTargets_eq_ok_iff {language : PatternLanguage} {validity : Validity}
    {seen : List String} {targets : List Target} :
    checkTargets language validity seen targets = .ok () ↔
      (∀ target ∈ targets, validity.accepts language .blockchainId target.id = .ok true ∧
        validity.accepts language .blockchainAddress target.address = .ok true ∧ target.Packable ∧
          target.id ∉ seen) ∧ (targets.map Target.id).Nodup := by
  induction targets generalizing seen with
  | nil => simp [checkTargets]
  | cons target rest ih =>
      rw [checkTargets_cons_eq_ok_iff, ih, List.forall_mem_cons, List.map_cons, List.nodup_cons]
      constructor
      · rintro ⟨hid, haddress, hpackable, hseen, hrest, hdistinct⟩
        refine ⟨⟨⟨hid, haddress, hpackable, hseen⟩, fun target' htarget => ?_⟩, ?_, hdistinct⟩
        · obtain ⟨hid', haddress', hpackable', hseen'⟩ := hrest target' htarget
          exact ⟨hid', haddress', hpackable', fun hmem => hseen' (List.mem_cons_of_mem _ hmem)⟩
        · intro hmem
          obtain ⟨target', htarget, heq⟩ := List.mem_map.mp hmem
          exact (hrest target' htarget).2.2.2 (heq ▸ List.mem_cons_self)
      · rintro ⟨⟨⟨hid, haddress, hpackable, hseen⟩, hrest⟩, hnew, hdistinct⟩
        refine ⟨hid, haddress, hpackable, hseen, fun target' htarget => ?_, hdistinct⟩
        obtain ⟨hid', haddress', hpackable', hseen'⟩ := hrest target' htarget
        refine ⟨hid', haddress', hpackable', fun hmem => ?_⟩
        rcases List.mem_cons.mp hmem with heq | hmem
        · exact hnew (heq ▸ List.mem_map_of_mem htarget)
        · exact hseen' hmem

end AccountGuard

/-- Whether an account passes a check at a block, under the name that it was asked for by and with
the domain above. -/
def AccountCheck.Passes (language : PatternLanguage) (config : Config) (context : Context)
    (guard : AccountGuard) (account : Account) : AccountCheck → Prop
  | mustExist => True
  | mustNotExist => False
  | notExpired => account.isExpired context = false
  | owner address => account.owner = address
  | notRoot => guard.name ≠ ""
  | validName => config.validity.accepts language .accountName guard.name = .ok true
  | validTargets targets =>
      targets.length ≤ config.targetsMax.toNat ∧
        AccountGuard.checkTargets language config.validity [] targets = .ok ()
  | certificateExists certificate => certificate ∈ account.certificates
  | certificateNotExist certificate => certificate ∉ account.certificates
  | certificateSize certificate =>
      1 ≤ certificate.length ∧ certificate.length ≤ config.certificateSizeMax.toNat
  | certificateLimit => account.certificates.length < config.certificatesMax.toNat
  | metadataSize uri => Utf8.size uri ≤ config.metadataSizeMax.toNat
  | deletableBy address =>
      ∃ domain, guard.parent = some domain ∧ (account.owner = address ∨ domain.admin = address)
  | transferableBy address =>
      ∃ domain, guard.parent = some domain ∧
        AccountGuard.mayTransfer domain account address = true

namespace AccountGuard

/-- The guard that has found an account. -/
def found (guard : AccountGuard) (account : Account) : AccountGuard :=
  { guard with lookup := some (some account) }

variable {σ : Type}

/-- What a check on an account that is there results in. -/
def verdict (situation : Situation σ) (guard : AccountGuard) (account : Account) :
    AccountCheck → Except Failure Unit
  | .mustExist => .ok ()
  | .mustNotExist => .error (.error ⟨.accountExists, guard.fullName⟩)
  | .certificateExists certificate =>
      if certificate ∈ account.certificates then .ok ()
      else .error (.error ⟨.certificateDoesNotExist,
        s!"{Hex.encode certificate} on account {guard.fullName}"⟩)
  | condition => (guard.found account).test situation condition

theorem test_validTargets_eq_ok_iff {situation : Situation σ} (guard : AccountGuard)
    {targets : List Target} :
    guard.test situation (.validTargets targets) = .ok () ↔
      targets.length ≤ situation.config.targetsMax.toNat ∧
        checkTargets situation.language situation.config.validity [] targets = .ok () := by
  change (liftM (require _ _ _) >>= fun _ => liftM (checkTargets _ _ _ _)) = _ ↔ _
  rw [bind_eq_ok_iff]
  constructor
  · rintro ⟨_, hcount, htargets⟩
    rw [lift_eq_ok_iff, require_eq_ok_iff] at hcount
    exact ⟨by simpa using hcount, lift_eq_ok_iff.mp htargets⟩
  · rintro ⟨hcount, htargets⟩
    refine ⟨(), ?_, lift_eq_ok_iff.mpr htargets⟩
    rw [lift_eq_ok_iff, require_eq_ok_iff]
    simpa using hcount

theorem verdict_eq_ok_iff {situation : Situation σ} {guard : AccountGuard} {account : Account}
    {condition : AccountCheck} :
    verdict situation guard account condition = .ok () ↔
      condition.Passes situation.language situation.config situation.context guard account := by
  have hrequire {condition : Bool} {kind : ErrorKind} {detail : String} {passes : Prop}
      (h : condition = true ↔ passes) :
      (liftM (require condition kind detail) : Except Failure Unit) = .ok () ↔ passes :=
    lift_eq_ok_iff.trans (require_eq_ok_iff.trans h)
  cases condition with
  | mustExist => simp [verdict, AccountCheck.Passes]
  | mustNotExist => simp [verdict, AccountCheck.Passes]
  | notExpired => exact hrequire (by simp [AccountCheck.Passes])
  | owner address => exact hrequire (by simp [AccountCheck.Passes])
  | notRoot => exact hrequire decide_eq_true_iff
  | validName => exact lift_require_eq_ok_iff
  | validTargets targets => exact test_validTargets_eq_ok_iff (guard.found account)
  | certificateExists certificate => simp [verdict, AccountCheck.Passes]
  | certificateNotExist certificate => exact hrequire (by simp [AccountCheck.Passes])
  | certificateSize certificate => exact hrequire (by simp [AccountCheck.Passes])
  | certificateLimit => exact hrequire (by simp [AccountCheck.Passes])
  | metadataSize uri => exact hrequire (by simp [AccountCheck.Passes])
  | deletableBy address =>
      obtain ⟨domainName, name, parent, lookup, index⟩ := guard
      cases parent with
      | none => exact ⟨nofun, nofun⟩
      | some domain => exact hrequire (by simp [AccountCheck.Passes])
  | transferableBy address =>
      obtain ⟨domainName, name, parent, lookup, index⟩ := guard
      cases parent with
      | none => exact ⟨nofun, nofun⟩
      | some domain => exact hrequire (by simp [AccountCheck.Passes])

variable [KeyValueStore σ] (situation : Situation σ)

theorem check_found (guard : AccountGuard) (account : Account) {condition : AccountCheck}
    (hcondition : ∀ certificate, condition ≠ .certificateExists certificate) :
    check situation condition (guard.found account) =
      (liftM (verdict situation guard account condition) : Update AccountGuard Unit)
        (guard.found account) := by
  cases condition with
  | certificateExists certificate => exact absurd rfl (hcondition certificate)
  | _ => rfl

theorem check_certificateExists (guard : AccountGuard) (account : Account) (certificate : Bytes) :
    check situation (.certificateExists certificate) (guard.found account) =
      (account.certificates.idxOf? certificate).elim
        (.error (.error ⟨.certificateDoesNotExist,
          s!"{Hex.encode certificate} on account {guard.fullName}"⟩) (guard.found account))
        fun position => .ok () { guard.found account with certificateIndex := some position } := by
  have hrecord : (guard.found account).record "CertificateExists" = .ok account := rfl
  rw [check, Update.get_bind, hrecord, Update.lift_ok_bind]
  cases account.certificates.idxOf? certificate with
  | none => rfl
  | some position => rfl

theorem validate_found (guard : AccountGuard) (account : Account) {checks : List AccountCheck}
    (hchecks : ∀ certificate, .certificateExists certificate ∉ checks) :
    validate situation checks (guard.found account) =
      (liftM (checks.forM (verdict situation guard account)) : Update AccountGuard Unit)
        (guard.found account) := by
  apply Update.forM_verdicts
  intro condition hcondition
  apply check_found
  rintro certificate rfl
  exact hchecks certificate hcondition

theorem evaluate_validate_found (guard : AccountGuard) (account : Account)
    {checks : List AccountCheck} (hchecks : ∀ certificate, .certificateExists certificate ∉ checks)
    {β : Type} (next : Unit → Update AccountGuard β) :
    Update.evaluate (validate situation checks >>= next) (guard.found account) =
      checks.forM (verdict situation guard account) >>= fun _ =>
        Update.evaluate (next ()) (guard.found account) := by
  rw [Update.evaluate_bind, validate_found situation guard account hchecks]
  cases checks.forM (verdict situation guard account) <;> rfl

theorem lookUp_of {domainName name : String} (parent : Option Domain) {found? : Option Account}
    (hfound : Registry.account? situation.store domainName name = .ok found?) :
    (of domainName name parent).lookUp situation.store =
      .ok (found?, { of domainName name parent with lookup := some found? }) := by
  simp only [lookUp, of, hfound]
  rfl

theorem evaluate_validate {domainName name : String} {parent : Option Domain}
    {found? : Option Account} {β : Type}
    (hfound : Registry.account? situation.store domainName name = .ok found?)
    (checks : List AccountCheck) (next : Unit → Update AccountGuard β) :
    Update.evaluate (validate situation (.mustExist :: checks) >>= next)
        (of domainName name parent) =
      found?.elim (.error (.error ⟨.accountDoesNotExist, NameRegistry.fullName domainName name⟩))
        fun account => Update.evaluate (validate situation checks >>= next)
          ((of domainName name parent).found account) := by
  have hlookUp := lookUp_of situation parent hfound
  have hsteps : validate situation (.mustExist :: checks) =
      check situation .mustExist >>= fun _ => validate situation checks := rfl
  rw [hsteps, bind_assoc, Update.evaluate_bind]
  cases found? with
  | none =>
      have hcheck : check situation .mustExist (of domainName name parent) =
          .error (.error ⟨.accountDoesNotExist, NameRegistry.fullName domainName name⟩)
            { of domainName name parent with lookup := some none } := by
        change EStateM.bind (liftM ((of domainName name parent).lookUp situation.store)) _ _ = _
        rw [hlookUp]
        rfl
      rw [hcheck]
      rfl
  | some account =>
      have hcheck : check situation .mustExist (of domainName name parent) =
          .ok () ((of domainName name parent).found account) := by
        change EStateM.bind (liftM ((of domainName name parent).lookUp situation.store)) _ _ = _
        rw [hlookUp]
        rfl
      rw [hcheck]
      rfl

theorem evaluate_validate_new {domainName name : String} {parent : Option Domain}
    {found? : Option Account} (targets : List Target)
    (hfound : Registry.account? situation.store domainName name = .ok found?) :
    Update.evaluate (validate situation [.mustNotExist, .validName, .validTargets targets])
        (of domainName name parent) =
      found?.elim ([.validName, .validTargets targets].forM
          ((of domainName name parent).test situation)) fun _ =>
        .error (.error ⟨.accountExists, NameRegistry.fullName domainName name⟩) := by
  have hlookUp := lookUp_of situation parent hfound
  have hsteps : validate situation [.mustNotExist, .validName, .validTargets targets] =
      check situation .mustNotExist >>= fun _ =>
        validate situation [.validName, .validTargets targets] := rfl
  rw [hsteps, Update.evaluate_bind]
  cases found? with
  | some account =>
      have hcheck : check situation .mustNotExist (of domainName name parent) =
          .error (.error ⟨.accountExists, NameRegistry.fullName domainName name⟩)
            ((of domainName name parent).found account) := by
        change EStateM.bind (liftM ((of domainName name parent).lookUp situation.store)) _ _ = _
        rw [hlookUp]
        rfl
      rw [hcheck]
      rfl
  | none =>
      have hcheck : check situation .mustNotExist (of domainName name parent) =
          .ok () { of domainName name parent with lookup := some none } := by
        change EStateM.bind (liftM ((of domainName name parent).lookUp situation.store)) _ _ = _
        rw [hlookUp]
        rfl
      have hverdicts : validate situation [.validName, .validTargets targets]
          { of domainName name parent with lookup := some none } =
            (liftM ([.validName, .validTargets targets].forM
              ((of domainName name parent).test situation)) : Update AccountGuard Unit)
                { of domainName name parent with lookup := some none } := by
        apply Update.forM_verdicts
        intro condition hcondition
        simp only [List.mem_cons, List.not_mem_nil, or_false] at hcondition
        rcases hcondition with rfl | rfl <;> rfl
      rw [hcheck, Option.elim_none]
      change Update.evaluate (validate situation _) _ = _
      rw [Update.evaluate, hverdicts]
      exact Update.evaluate_lift _ { of domainName name parent with lookup := some none }

end AccountGuard

end NameRegistry
