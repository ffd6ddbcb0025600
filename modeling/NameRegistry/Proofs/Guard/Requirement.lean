import NameRegistry.Proofs.Config.Patterns
import NameRegistry.Proofs.Guard.Account
import NameRegistry.Proofs.Guard.Faultless
import NameRegistry.Proofs.Time

namespace NameRegistry

variable {α β ι σ : Type}

/-- A condition, and the kind of the error that reports that it is not met. -/
structure Requirement where
  met : Bool
  kind : ErrorKind
  deriving DecidableEq

/-- Whether a result is what requirements make of it: a value if all are met, and otherwise an error
of the kind of the first that is not. -/
def DecidedBy : List Requirement → Except Failure α → Prop
  | [], result => ∃ value, result = .ok value
  | requirement :: rest, result =>
    if requirement.met then DecidedBy rest result
    else ∃ error, result = .error (.error error) ∧ error.kind = requirement.kind

section DecidedBy

variable {requirements requirements' : List Requirement} {result : Except Failure α}

theorem decidedBy_ok (value : α) : DecidedBy [] (.ok value) := ⟨value, rfl⟩

theorem decidedBy_lift {result : Except Error Unit} {condition : Bool} {kind : ErrorKind}
    (hmet : result = .ok () ↔ condition = true)
    (hkind : ∀ error, result = .error error → error.kind = kind) :
    DecidedBy [⟨condition, kind⟩] (liftM result : Except Failure Unit) := by
  rw [DecidedBy]
  cases result with
  | ok value =>
      rw [if_pos (hmet.mp rfl)]
      exact decidedBy_ok value
  | error error =>
      rw [if_neg fun hcondition => nomatch hmet.mpr hcondition]
      exact ⟨error, rfl, hkind error rfl⟩

theorem decidedBy_require {condition condition' : Bool} (kind : ErrorKind) (detail : String)
    (h : condition' = true ↔ condition = true) :
    DecidedBy [⟨condition, kind⟩]
      (liftM (require condition' kind detail) : Except Failure Unit) :=
  decidedBy_lift (require_eq_ok_iff.trans h) fun _ => kind_of_require

theorem decidedBy_bind {next : α → Except Failure β} (h : DecidedBy requirements result)
    (hnext : ∀ value, result = .ok value → DecidedBy requirements' (next value)) :
    DecidedBy (requirements ++ requirements') (result >>= next) := by
  induction requirements with
  | nil =>
      obtain ⟨value, rfl⟩ := h
      exact hnext value rfl
  | cons requirement rest ih =>
      rw [DecidedBy] at h
      rw [List.cons_append, DecidedBy]
      split
      · rename_i hmet
        rw [if_pos hmet] at h
        exact ih h
      · rename_i hmet
        rw [if_neg hmet] at h
        obtain ⟨error, rfl, hkind⟩ := h
        exact ⟨error, rfl, hkind⟩

theorem decidedBy_cons {requirement : Requirement} {next : α → Except Failure β}
    (h : DecidedBy [requirement] result)
    (hnext : ∀ value, result = .ok value → DecidedBy requirements (next value)) :
    DecidedBy (requirement :: requirements) (result >>= next) :=
  decidedBy_bind h hnext

theorem decidedBy_bind_ok {next : α → Except Failure β} (h : DecidedBy requirements result)
    (hnext : ∀ value, result = .ok value → ∃ after, next value = .ok after) :
    DecidedBy requirements (result >>= next) := by
  rw [← List.append_nil requirements]
  exact decidedBy_bind h hnext

theorem decidedBy_forM {requirements : ι → List Requirement} {test : ι → Except Failure Unit}
    {items : List ι} (h : ∀ item ∈ items, DecidedBy (requirements item) (test item)) :
    DecidedBy (items.flatMap requirements) (items.forM test) := by
  induction items with
  | nil => exact decidedBy_ok ()
  | cons item rest ih =>
      obtain ⟨hitem, hrest⟩ := List.forall_mem_cons.mp h
      rw [List.flatMap_cons]
      exact decidedBy_bind hitem fun _ _ => ih hrest

theorem decidedBy_withContext {context : String} {update : Update σ α}
    {next : α → Update σ β} {state : σ}
    (h : DecidedBy requirements (Update.evaluate (update >>= next) state)) :
    DecidedBy requirements
      (Update.evaluate (Update.withContext context update >>= next) state) := by
  rw [Update.evaluate_bind] at h ⊢
  rw [Update.withContext]
  cases hupdate : update state with
  | ok value after =>
      rw [hupdate] at h
      exact h
  | error failure after =>
      rw [hupdate] at h
      -- A context goes before the detail of an error and leaves its kind.
      induction requirements with
      | nil =>
          obtain ⟨_, hvalue⟩ := h
          cases hvalue
      | cons requirement rest ih =>
          rw [DecidedBy] at h ⊢
          split
          · rename_i hmet
            rw [if_pos hmet] at h
            exact ih h
          · rename_i hmet
            rw [if_neg hmet] at h
            obtain ⟨error, herror, hkind⟩ := h
            obtain rfl := Except.error.inj herror
            exact ⟨error.context context, rfl, hkind⟩

theorem DecidedBy.eq_ok_iff (h : DecidedBy requirements result) :
    (∃ value, result = .ok value) ↔ ∀ requirement ∈ requirements, requirement.met = true := by
  induction requirements with
  | nil => exact ⟨fun _ => nofun, fun _ => h⟩
  | cons requirement rest ih =>
      rw [DecidedBy] at h
      rw [List.forall_mem_cons]
      split at h
      · rename_i hmet
        rw [ih h]
        exact ⟨fun hrest => ⟨hmet, hrest⟩, fun hall => hall.2⟩
      · rename_i hmet
        obtain ⟨error, rfl, _⟩ := h
        exact ⟨nofun, fun hall => absurd hall.1 hmet⟩

theorem DecidedBy.exists_unmet {failure : Failure} (h : DecidedBy requirements result)
    (hfails : result = .error failure) :
    ∃ requirement ∈ requirements, requirement.met = false := by
  refine Classical.byContradiction fun hnone => ?_
  obtain ⟨value, hok⟩ := h.eq_ok_iff.mpr fun requirement hrequirement =>
    eq_true_of_ne_false fun hunmet => hnone ⟨requirement, hrequirement, hunmet⟩
  cases hfails.symm.trans hok

theorem DecidedBy.eq_error {requirement : Requirement} (h : DecidedBy requirements result)
    (hfirst : requirements.find? (fun requirement => !requirement.met) = some requirement) :
    ∃ error, result = .error (.error error) ∧ error.kind = requirement.kind := by
  induction requirements with
  | nil => cases hfirst
  | cons requirement' rest ih =>
      rw [DecidedBy] at h
      rw [List.find?_cons] at hfirst
      split at h
      · rename_i hmet
        rw [hmet] at hfirst
        exact ih h hfirst
      · rename_i hmet
        rw [Bool.eq_false_iff.mpr hmet] at hfirst
        obtain rfl := Option.some.inj hfirst
        exact h

end DecidedBy

theorem decidedBy_question {question : Except Error Bool} {answer condition : Bool}
    (kind : ErrorKind) (detail : String) (hanswer : question = .ok answer)
    (h : answer = true ↔ condition = true) :
    DecidedBy [⟨condition, kind⟩]
      (liftM question >>= fun holds => liftM (require holds kind detail) :
        Except Failure Unit) := by
  subst hanswer
  exact decidedBy_require kind detail h

namespace DomainCheck

/-- What a check on a domain requires, of what was found under the name. -/
def requirement (language : PatternLanguage) (config : Config) (context : Context) (name : String)
    (domain? : Option Domain) : DomainCheck → Requirement
  | mustExist => ⟨domain?.isSome, .domainDoesNotExist⟩
  | mustNotExist => ⟨domain?.isNone, .domainAlreadyExists⟩
  | notExpired =>
    ⟨domain?.any fun domain => ¬ context.Passed domain.validUntil.toInt, .domainExpired⟩
  | admin address => ⟨domain?.any fun domain => domain.admin = address, .unauthorized⟩
  | type expected => ⟨domain?.any fun domain => domain.domainType = expected, .invalidDomainType⟩
  | gracePeriodFinished =>
    ⟨domain?.any fun domain =>
        context.Passed (DomainGuard.reclaimableAfter config domain).toInt, .gracePeriodNotFinished⟩
  | validName =>
    ⟨'*' ∉ name.toList ∧ language.isMatch config.validity.domainName name = true,
      .invalidDomainName⟩

end DomainCheck

namespace DomainGuard

variable {situation : Situation σ}

theorem decidedBy_validName (hreadable : situation.config.Readable situation.language)
    (guard : DomainGuard) (domain? : Option Domain) :
    DecidedBy
      [DomainCheck.validName.requirement situation.language situation.config situation.context
        guard.name domain?]
      (guard.test situation .validName) := by
  have hanswer := hreadable.accepts_eq .domainName guard.name
  by_cases hplain : Plain guard.name
  · have hvalid : isValidName situation.language situation.config guard.name =
        .ok (situation.language.isMatch situation.config.validity.domainName guard.name) := by
      rw [isValidName, if_neg (mt List.contains_iff_mem.mp hplain), hanswer]
      rfl
    refine decidedBy_question _ _ hvalid ?_
    rw [decide_eq_true_iff]
    exact ⟨fun hmatch => ⟨notMem_of_plain hplain, hmatch⟩, fun h => h.2⟩
  · have hvalid : isValidName situation.language situation.config guard.name = .ok false := by
      rw [isValidName, if_pos (List.contains_iff_mem.mpr (Decidable.not_not.mp hplain))]
    refine decidedBy_question _ _ hvalid ?_
    rw [decide_eq_true_iff]
    exact ⟨nofun, fun h => absurd (plain_of_notMem h.1) hplain⟩

theorem decidedBy_verdict (hreadable : situation.config.Readable situation.language)
    (domain : Domain) (check : DomainCheck) :
    DecidedBy
      [check.requirement situation.language situation.config situation.context domain.name
        (some domain)]
      (verdict situation domain check) := by
  cases check with
  | mustExist => exact decidedBy_ok ()
  | mustNotExist => exact ⟨_, rfl, rfl⟩
  | notExpired =>
      refine decidedBy_require _ _ (Context.not_isAfter_iff.trans ?_)
      rw [Option.any_some, decide_eq_true_iff]
  | admin address => exact decidedBy_require _ _ Iff.rfl
  | type expected => exact decidedBy_require _ _ Iff.rfl
  | gracePeriodFinished =>
      refine decidedBy_require _ _ (Context.isAfter_iff.trans ?_)
      rw [Option.any_some, decide_eq_true_iff]
  | validName => exact decidedBy_validName hreadable (found domain) (some domain)

end DomainGuard

/-- Whether an account may have the targets: each matches the patterns and can be indexed, and no
blockchain comes twice. -/
def Config.AllowsTargets (language : PatternLanguage) (config : Config) (targets : List Target) :
    Prop :=
  (∀ target ∈ targets, language.isMatch config.validity.blockchainId target.id = true ∧
    language.isMatch config.validity.blockchainAddress target.address = true ∧
      target.Packable) ∧ (targets.map Target.id).Nodup

instance (language : PatternLanguage) (config : Config) (targets : List Target) :
    Decidable (config.AllowsTargets language targets) :=
  inferInstanceAs (Decidable (_ ∧ _))

namespace AccountCheck

/-- What a check on an account requires, of what was found under its names and of the domain above
that was given. -/
def requirements (language : PatternLanguage) (config : Config) (context : Context)
    (name : String) (parent? : Option Domain) (account? : Option Account) :
    AccountCheck → List Requirement
  | mustExist => [⟨account?.isSome, .accountDoesNotExist⟩]
  | mustNotExist => [⟨account?.isNone, .accountExists⟩]
  | notExpired =>
    [⟨account?.any fun account => ¬ context.Passed account.validUntil.toInt, .accountExpired⟩]
  | owner address => [⟨account?.any fun account => account.owner = address, .unauthorized⟩]
  | notRoot => [⟨name ≠ "", .invalidRequest⟩]
  | validName => [⟨language.isMatch config.validity.accountName name, .invalidAccountName⟩]
  | validTargets targets =>
    [⟨targets.length ≤ config.targetsMax.toNat, .invalidRequest⟩,
      ⟨config.AllowsTargets language targets, .invalidBlockchainTarget⟩]
  | certificateExists certificate =>
    [⟨account?.any fun account => certificate ∈ account.certificates, .certificateDoesNotExist⟩]
  | certificateNotExist certificate =>
    [⟨account?.any fun account => certificate ∉ account.certificates, .certificateExists⟩]
  | certificateSize certificate =>
    [⟨1 ≤ certificate.length ∧ certificate.length ≤ config.certificateSizeMax.toNat,
      .invalidRequest⟩]
  | certificateLimit =>
    [⟨account?.any fun account =>
        account.certificates.length < config.certificatesMax.toNat, .invalidRequest⟩]
  | metadataSize uri => [⟨Utf8.size uri ≤ config.metadataSizeMax.toNat, .invalidRequest⟩]
  | deletableBy address =>
    [⟨account?.any fun account => account.owner = address ∨
        parent?.any fun domain => domain.admin = address, .unauthorized⟩]
  | transferableBy address =>
    [⟨account?.any fun account => parent?.any fun domain =>
        domain.domainType = .closed ∧ domain.admin = address ∨
          domain.domainType = .opened ∧ account.owner = address, .unauthorized⟩]

end AccountCheck

namespace AccountGuard

variable {situation : Situation σ}

theorem kind_of_checkTargets {language : PatternLanguage} {config : Config}
    (hreadable : config.Readable language) {seen : List String} {targets : List Target}
    {error : Error} (h : checkTargets language config.validity seen targets = .error error) :
    error.kind = .invalidBlockchainTarget := by
  have hrequire {condition : Bool} {detail : String} {next : Except Error Unit}
      (hnext : next = .error error → error.kind = .invalidBlockchainTarget)
      (h : (require condition .invalidBlockchainTarget detail >>= fun _ => next) = .error error) :
      error.kind = .invalidBlockchainTarget := by
    rcases bind_eq_error_iff.mp h with hrefused | ⟨_, _, h⟩
    · exact kind_of_require hrefused
    · exact hnext h
  induction targets generalizing seen with
  | nil => cases h
  | cons target rest ih =>
      rw [checkTargets, hreadable.accepts_eq, hreadable.accepts_eq] at h
      refine hrequire (fun h => hrequire (fun h => ?_) h) h
      split at h
      · exact hrequire ih h
      · obtain rfl := Except.error.inj h
        rfl

theorem decidedBy_checkTargets {language : PatternLanguage} {config : Config}
    (hreadable : config.Readable language) (targets : List Target) :
    DecidedBy [⟨config.AllowsTargets language targets, .invalidBlockchainTarget⟩]
      (liftM (checkTargets language config.validity [] targets) : Except Failure Unit) := by
  refine decidedBy_lift ?_ fun _ => kind_of_checkTargets hreadable
  rw [checkTargets_eq_ok_iff, decide_eq_true_iff]
  simp [Config.AllowsTargets, hreadable.accepts_eq, Validity.pattern]

theorem decidedBy_validName (hreadable : situation.config.Readable situation.language)
    (guard : AccountGuard) :
    DecidedBy
      [⟨situation.language.isMatch situation.config.validity.accountName guard.name,
        .invalidAccountName⟩]
      (guard.test situation .validName) :=
  decidedBy_question _ _ (hreadable.accepts_eq .accountName guard.name) Iff.rfl

theorem decidedBy_validTargets (hreadable : situation.config.Readable situation.language)
    (guard : AccountGuard) (targets : List Target) :
    DecidedBy
      [⟨targets.length ≤ situation.config.targetsMax.toNat, .invalidRequest⟩,
        ⟨situation.config.AllowsTargets situation.language targets, .invalidBlockchainTarget⟩]
      (guard.test situation (.validTargets targets)) :=
  decidedBy_cons (decidedBy_require _ _ Iff.rfl) fun _ _ =>
    decidedBy_checkTargets hreadable targets

theorem decidedBy_verdict (hreadable : situation.config.Readable situation.language)
    {guard : AccountGuard} (account : Account) {check : AccountCheck}
    (hparent : guard.parent.isSome ∨ check.onParent = false) :
    DecidedBy
      (check.requirements situation.language situation.config situation.context guard.name
        guard.parent (some account))
      (verdict situation guard account check) := by
  cases check with
  | mustExist => exact decidedBy_ok ()
  | mustNotExist => exact ⟨_, rfl, rfl⟩
  | notExpired =>
      refine decidedBy_require _ _ (Context.not_isAfter_iff.trans ?_)
      rw [Option.any_some, decide_eq_true_iff]
  | owner address => exact decidedBy_require _ _ Iff.rfl
  | notRoot => exact decidedBy_require _ _ Iff.rfl
  | validName => exact decidedBy_validName hreadable (guard.found account)
  | validTargets targets => exact decidedBy_validTargets hreadable (guard.found account) targets
  | certificateExists certificate =>
      by_cases hmem : certificate ∈ account.certificates
      · simp [DecidedBy, AccountCheck.requirements, verdict, hmem]
      · simp [DecidedBy, AccountCheck.requirements, verdict, hmem]
  | certificateNotExist certificate => exact decidedBy_require _ _ (by simp)
  | certificateSize certificate => exact decidedBy_require _ _ (by simp)
  | certificateLimit => exact decidedBy_require _ _ Iff.rfl
  | metadataSize uri => exact decidedBy_require _ _ Iff.rfl
  | deletableBy address =>
      obtain ⟨domainName, name, parent, lookup, index⟩ := guard
      cases parent with
      | none => simp [AccountCheck.onParent] at hparent
      | some domain => exact decidedBy_require _ _ (by simp)
  | transferableBy address =>
      obtain ⟨domainName, name, parent, lookup, index⟩ := guard
      cases parent with
      | none => simp [AccountCheck.onParent] at hparent
      | some domain =>
          refine decidedBy_require _ _ ?_
          cases htype : domain.domainType <;> simp [mayTransfer, htype]

end AccountGuard

end NameRegistry
