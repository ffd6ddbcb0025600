import NameRegistry.Delivery.Decision
import NameRegistry.Proofs.Failure

namespace NameRegistry

/-- Whether a domain passes a check at a block. -/
def DomainCheck.Passes (language : PatternLanguage) (config : Config) (context : Context)
    (domain : Domain) : DomainCheck → Prop
  | mustExist => True
  | mustNotExist => False
  | notExpired => domain.isExpired context = false
  | admin address => domain.admin = address
  | type expected => domain.domainType = expected
  | gracePeriodFinished => context.isAfter (DomainGuard.reclaimableAfter config domain) = true
  | validName => DomainGuard.isValidName language config domain.name = .ok true

namespace DomainGuard

/-- A guard that has found a domain. -/
def found (domain : Domain) : DomainGuard := ⟨domain.name, some (some domain)⟩

variable {σ : Type}

/-- What a check on a domain that is there results in. -/
def verdict (situation : Situation σ) (domain : Domain) : DomainCheck → Except Failure Unit
  | .mustExist => .ok ()
  | .mustNotExist => .error (.error ⟨.domainAlreadyExists, domain.name⟩)
  | condition => (found domain).test situation condition

theorem verdict_eq_ok_iff {situation : Situation σ} {domain : Domain} {condition : DomainCheck} :
    verdict situation domain condition = .ok () ↔
      condition.Passes situation.language situation.config situation.context domain := by
  cases condition with
  | mustExist => simp [verdict, DomainCheck.Passes]
  | mustNotExist => simp [verdict, DomainCheck.Passes]
  | notExpired =>
      exact lift_eq_ok_iff.trans (require_eq_ok_iff.trans (by simp [DomainCheck.Passes]))
  | admin address =>
      exact lift_eq_ok_iff.trans (require_eq_ok_iff.trans (by simp [DomainCheck.Passes]))
  | type expected =>
      exact lift_eq_ok_iff.trans (require_eq_ok_iff.trans (by simp [DomainCheck.Passes]))
  | gracePeriodFinished =>
      exact lift_eq_ok_iff.trans (require_eq_ok_iff.trans (by simp [DomainCheck.Passes]))
  | validName => exact lift_require_eq_ok_iff

variable [KeyValueStore σ] (situation : Situation σ) (domain : Domain)

theorem check_found (condition : DomainCheck) :
    check situation condition (found domain) =
      (liftM (verdict situation domain condition) : Update DomainGuard Unit) (found domain) := by
  cases condition <;> rfl

theorem validate_found (checks : List DomainCheck) :
    validate situation checks (found domain) =
      (liftM (checks.forM (verdict situation domain)) : Update DomainGuard Unit)
        (found domain) :=
  Update.forM_verdicts fun condition _ => check_found situation domain condition

theorem evaluate_validate_found (checks : List DomainCheck) {β : Type}
    (next : Unit → Update DomainGuard β) :
    Update.evaluate (validate situation checks >>= next) (found domain) =
      checks.forM (verdict situation domain) >>= fun _ =>
        Update.evaluate (next ()) (found domain) := by
  rw [Update.evaluate_bind, validate_found]
  cases checks.forM (verdict situation domain) <;> rfl

theorem lookUp_of {name : String} {found? : Option Domain}
    (hfound : Registry.domain? situation.store name = .ok found?) :
    (of name).lookUp situation.store = .ok (found?, ⟨name, some found?⟩) := by
  simp only [lookUp, of, hfound]
  rfl

theorem evaluate_validate {name : String} {found? : Option Domain} {β : Type}
    (hfound : Registry.domain? situation.store name = .ok found?)
    (hname : ∀ domain ∈ found?, domain.name = name) (checks : List DomainCheck)
    (next : Unit → Update DomainGuard β) :
    Update.evaluate (validate situation (.mustExist :: checks) >>= next) (of name) =
      found?.elim (.error (.error ⟨.domainDoesNotExist, name⟩)) fun domain =>
        checks.forM (verdict situation domain) >>= fun _ =>
          Update.evaluate (next ()) (found domain) := by
  have hlookUp := lookUp_of situation hfound
  have hsteps : validate situation (.mustExist :: checks) =
      check situation .mustExist >>= fun _ => validate situation checks := rfl
  rw [hsteps, bind_assoc, Update.evaluate_bind]
  cases found? with
  | none =>
      have hcheck : check situation .mustExist (of name) =
          .error (.error ⟨.domainDoesNotExist, name⟩) ⟨name, some none⟩ := by
        change EStateM.bind (liftM ((of name).lookUp situation.store)) _ (of name) = _
        rw [hlookUp]
        rfl
      rw [hcheck]
      rfl
  | some domain =>
      obtain rfl := hname domain rfl
      have hcheck : check situation .mustExist (of domain.name) = .ok () (found domain) := by
        change EStateM.bind (liftM ((of domain.name).lookUp situation.store)) _ _ = _
        rw [hlookUp]
        rfl
      rw [hcheck]
      exact evaluate_validate_found situation domain checks next

theorem evaluate_validate_new {name : String} {found? : Option Domain}
    (hfound : Registry.domain? situation.store name = .ok found?) :
    Update.evaluate (validate situation [.mustNotExist, .validName]) (of name) =
      found?.elim ((of name).test situation .validName) fun _ =>
        .error (.error ⟨.domainAlreadyExists, name⟩) := by
  have hlookUp := lookUp_of situation hfound
  have hsteps : Update.evaluate (validate situation [.mustNotExist, .validName]) (of name) =
      Update.evaluate (check situation .mustNotExist >>= fun _ => validate situation [.validName])
        (of name) := rfl
  rw [hsteps, Update.evaluate_bind]
  cases found? with
  | some domain =>
      have hcheck : check situation .mustNotExist (of name) =
          .error (.error ⟨.domainAlreadyExists, name⟩) ⟨name, some (some domain)⟩ := by
        change EStateM.bind (liftM ((of name).lookUp situation.store)) _ (of name) = _
        rw [hlookUp]
        rfl
      rw [hcheck]
      rfl
  | none =>
      have hcheck : check situation .mustNotExist (of name) = .ok () ⟨name, some none⟩ := by
        change EStateM.bind (liftM ((of name).lookUp situation.store)) _ (of name) = _
        rw [hlookUp]
        rfl
      have hsingle : Update.evaluate (validate situation [.validName]) ⟨name, some none⟩ =
          Update.evaluate (check situation .validName >>= pure) ⟨name, some none⟩ := rfl
      rw [hcheck]
      dsimp only
      rw [hsingle, bind_pure]
      exact Update.evaluate_lift _ _

end DomainGuard

end NameRegistry
