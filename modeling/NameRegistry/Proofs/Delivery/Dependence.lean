import NameRegistry.Delivery.Decision
import NameRegistry.Proofs.Failure

namespace NameRegistry

/-- The name of the domain that an action is for, or that the account it is for is in. -/
def Action.domainName : Action → String
  | domain name _ => name
  | account domainName _ _ => domainName

variable {σ τ ι α β : Type}

namespace Update

/-- Whether two updates do the same to a state, and leave what is told if they come to their end. -/
def Alike (update update' : Update σ α) (state : σ) (leaves : σ → Prop) : Prop :=
  update state = update' state ∧
    match update state with
    | .ok _ after => leaves after
    | .error _ _ => True

variable {state : σ} {leaves : σ → Prop}

theorem evaluate_alike (leaves : σ → Prop) {update update' : Update σ α}
    (h : Alike update update' state leaves) : evaluate update state = evaluate update' state := by
  rw [evaluate, evaluate, h.1]

theorem alike_refl (update : Update σ α) (state : σ) :
    Alike update update state fun _ => True := by
  refine ⟨rfl, ?_⟩
  cases update state <;> trivial

theorem alike_pure {value : α} (h : leaves state) : Alike (pure value) (pure value) state leaves :=
  ⟨rfl, h⟩

theorem alike_get {next next' : σ → Update σ α}
    (h : Alike (next state) (next' state) state leaves) :
    Alike (get >>= next) (get >>= next') state leaves := h

theorem alike_set {after : σ} {next next' : Unit → Update σ α}
    (h : Alike (next ()) (next' ()) after leaves) :
    Alike (set after >>= next) (set after >>= next') state leaves := h

theorem alike_lift (result : Except Failure α) (h : leaves state) :
    Alike (liftM result) (liftM result) state leaves := by
  cases result with
  | ok value => exact ⟨rfl, h⟩
  | error failure => exact ⟨rfl, trivial⟩

theorem alike_lift_bind {result : Except Failure β} {next next' : β → Update σ α}
    (h : ∀ value, result = .ok value → Alike (next value) (next' value) state leaves) :
    Alike (liftM result >>= next) (liftM result >>= next') state leaves := by
  cases result with
  | ok value => exact h value rfl
  | error failure => exact ⟨rfl, trivial⟩

theorem alike_bind {update update' : Update σ β} {next next' : β → Update σ α}
    {between : σ → Prop} (h : Alike update update' state between)
    (hnext : ∀ value after, between after → Alike (next value) (next' value) after leaves) :
    Alike (update >>= next) (update' >>= next') state leaves := by
  obtain ⟨hsame, hbetween⟩ := h
  change EStateM.bind update next state = EStateM.bind update' next' state ∧
    match EStateM.bind update next state with
    | .ok _ after => leaves after
    | .error _ _ => True
  rw [EStateM.bind, EStateM.bind, ← hsame]
  revert hbetween
  cases update state with
  | ok value after => exact hnext value after
  | error failure after => exact fun _ => ⟨rfl, trivial⟩

theorem alike_withContext {context : String} {update update' : Update σ α}
    (h : Alike update update' state leaves) :
    Alike (withContext context update) (withContext context update') state leaves := by
  obtain ⟨hsame, hleaves⟩ := h
  rw [Alike, withContext, withContext, ← hsame]
  refine ⟨rfl, ?_⟩
  revert hleaves
  rcases update state with _ | ⟨_ | _, _⟩ <;> exact id

theorem alike_forM {step step' : ι → Update σ Unit}
    (h : ∀ item state, leaves state → Alike (step item) (step' item) state leaves)
    (items : List ι) (hstate : leaves state) :
    Alike (items.forM step) (items.forM step') state leaves := by
  induction items generalizing state with
  | nil => exact alike_pure hstate
  | cons item rest ih => exact alike_bind (h item state hstate) fun _ _ hafter => ih hafter

end Update

open Update

/-- What checks look at, with another store. -/
def Situation.over (situation : Situation σ) (store : τ) : Situation τ :=
  { situation with store := store }

variable [KeyValueStore σ] [KeyValueStore τ] {situation : Situation σ} {store : τ}
  {name domainName : String}

namespace DomainGuard

theorem name_of_lookUp {guard after : DomainGuard} {found? : Option Domain}
    (h : guard.lookUp store = .ok (found?, after)) : after.name = guard.name := by
  rw [lookUp] at h
  split at h
  · cases h
    rfl
  · obtain ⟨found, _, hafter⟩ := bind_eq_ok_iff.mp h
    cases hafter
    rfl

theorem alike_check (hdomain : Registry.domain? situation.store name = Registry.domain? store name)
    (condition : DomainCheck) {guard : DomainGuard} (hguard : guard.name = name) :
    Alike (check situation condition) (check (situation.over store) condition) guard
      fun guard => guard.name = name := by
  subst hguard
  have hlookUp : guard.lookUp situation.store = guard.lookUp store := by
    rw [lookUp, lookUp, hdomain]
  cases condition with
  | mustExist | mustNotExist =>
      refine alike_get ?_
      dsimp only
      rw [hlookUp]
      refine alike_lift_bind fun ⟨found?, after⟩ h => alike_set (alike_lift _ ?_)
      exact name_of_lookUp (lift_eq_ok_iff.mp h)
  | _ => exact alike_get (alike_lift _ rfl)

theorem alike_validate
    (hdomain : Registry.domain? situation.store name = Registry.domain? store name)
    (checks : List DomainCheck) {guard : DomainGuard} (hguard : guard.name = name) :
    Alike (validate situation checks) (validate (situation.over store) checks) guard
      fun guard => guard.name = name :=
  alike_forM (fun condition _ => alike_check hdomain condition) checks hguard

end DomainGuard

namespace AccountGuard

theorem names_of_lookUp {guard after : AccountGuard} {found? : Option Account}
    (h : guard.lookUp store = .ok (found?, after)) :
    after.domainName = guard.domainName ∧ after.name = guard.name := by
  rw [lookUp] at h
  split at h
  · cases h
    exact ⟨rfl, rfl⟩
  · obtain ⟨found, _, hafter⟩ := bind_eq_ok_iff.mp h
    cases hafter
    exact ⟨rfl, rfl⟩

theorem alike_check
    (haccount : Registry.account? situation.store domainName name =
      Registry.account? store domainName name)
    (condition : AccountCheck) {guard : AccountGuard}
    (hguard : guard.domainName = domainName ∧ guard.name = name) :
    Alike (check situation condition) (check (situation.over store) condition) guard
      fun guard => guard.domainName = domainName ∧ guard.name = name := by
  obtain ⟨rfl, rfl⟩ := hguard
  have hlookUp : guard.lookUp situation.store = guard.lookUp store := by
    rw [lookUp, lookUp, haccount]
  cases condition with
  | mustExist | mustNotExist =>
      refine alike_get ?_
      dsimp only
      rw [hlookUp]
      refine alike_lift_bind fun ⟨found?, after⟩ h => alike_set (alike_lift _ ?_)
      exact names_of_lookUp (lift_eq_ok_iff.mp h)
  | certificateExists certificate =>
      refine alike_get (alike_lift_bind fun account _ => ?_)
      cases account.certificates.idxOf? certificate with
      | none => exact ⟨rfl, trivial⟩
      | some position => exact ⟨rfl, rfl, rfl⟩
  | _ => exact alike_get (alike_lift _ ⟨rfl, rfl⟩)

theorem alike_validate
    (haccount : Registry.account? situation.store domainName name =
      Registry.account? store domainName name)
    (checks : List AccountCheck) {guard : AccountGuard}
    (hguard : guard.domainName = domainName ∧ guard.name = name) :
    Alike (validate situation checks) (validate (situation.over store) checks) guard
      fun guard => guard.domainName = domainName ∧ guard.name = name :=
  alike_forM (fun condition _ => alike_check haccount condition) checks hguard

end AccountGuard

namespace Decision

theorem loadDomain_congr
    (hdomain : Registry.domain? situation.store name = Registry.domain? store name) :
    loadDomain situation name = loadDomain (situation.over store) name := by
  funext checks
  apply evaluate_alike fun _ => True
  exact alike_bind (DomainGuard.alike_validate hdomain checks rfl) fun _ _ _ => alike_refl _ _

theorem loadAccount_congr
    (haccount : Registry.account? situation.store domainName name =
      Registry.account? store domainName name) :
    loadAccount situation domainName name =
      loadAccount (situation.over store) domainName name := by
  funext parent checks
  apply evaluate_alike fun _ => True
  exact alike_bind (AccountGuard.alike_validate haccount checks ⟨rfl, rfl⟩)
    fun _ _ _ => alike_refl _ _

theorem openToRegistration_congr (signer : Address)
    (hdomain : Registry.domain? situation.store name = Registry.domain? store name) :
    openToRegistration situation signer name =
      openToRegistration (situation.over store) signer name := by
  apply evaluate_alike fun _ => True
  refine alike_bind (DomainGuard.alike_validate hdomain _ rfl) fun _ guard hguard => ?_
  refine alike_get (alike_lift_bind fun domain _ => ?_)
  split
  · exact alike_bind (alike_withContext (DomainGuard.alike_validate hdomain _ hguard))
      fun _ _ _ => alike_refl _ _
  · exact alike_refl _ _

theorem onDomain_congr
    (hdomain : Registry.domain? situation.store name = Registry.domain? store name)
    (signer : Address) (action : DomainAction) :
    onDomain situation signer name action =
      onDomain (situation.over store) signer name action := by
  have hload : loadDomain situation name = loadDomain (situation.over store) name :=
    loadDomain_congr hdomain
  cases action with
  | register domainType broker =>
      have hvalidate (checks : List DomainCheck) :
          evaluate (DomainGuard.validate situation checks) (.of name) =
            evaluate (DomainGuard.validate (situation.over store) checks) (.of name) :=
        evaluate_alike _ (DomainGuard.alike_validate hdomain checks rfl)
      rw [onDomain, onDomain, hvalidate]
      rfl
  | renew =>
      rw [onDomain, onDomain, hload]
      rfl
  | delete =>
      rw [onDomain, onDomain]
      refine congrArg (· >>= _) (evaluate_alike (fun guard => guard.name = name) ?_)
      refine alike_bind (DomainGuard.alike_validate hdomain _ rfl) fun _ guard hguard => ?_
      refine alike_get (alike_lift_bind fun domain _ => ?_)
      split
      · exact alike_withContext (DomainGuard.alike_validate hdomain _ hguard)
      · exact alike_pure hguard
  | transfer newAdmin flag => rw [onDomain, onDomain, hload]
  | flush => rw [onDomain, onDomain, hload]

theorem onAccount_congr
    (hdomain : Registry.domain? situation.store domainName = Registry.domain? store domainName)
    (haccount : Registry.account? situation.store domainName name =
      Registry.account? store domainName name)
    (signer : Address) (action : AccountAction) :
    onAccount situation signer domainName name action =
      onAccount (situation.over store) signer domainName name action := by
  have hload : loadDomain situation domainName = loadDomain (situation.over store) domainName :=
    loadDomain_congr hdomain
  have hload' : loadAccount situation domainName name =
      loadAccount (situation.over store) domainName name := loadAccount_congr haccount
  cases action with
  | register owner targets broker =>
      have hopen : openToRegistration situation signer domainName =
          openToRegistration (situation.over store) signer domainName :=
        openToRegistration_congr signer hdomain
      have hvalidate (checks : List AccountCheck) :
          evaluate (AccountGuard.validate situation checks) (.of domainName name none) =
            evaluate (AccountGuard.validate (situation.over store) checks)
              (.of domainName name none) :=
        evaluate_alike _ (AccountGuard.alike_validate haccount checks ⟨rfl, rfl⟩)
      simp only [onAccount, hopen, hvalidate]
      rfl
  | deleteCertificate certificate =>
      apply evaluate_alike fun _ => True
      exact alike_bind (AccountGuard.alike_validate haccount _ ⟨rfl, rfl⟩)
        fun _ _ _ => alike_refl _ _
  | _ => simp only [onAccount, hload, hload']

/-- Decisions look up the domain of their message and accounts of it, and nothing else. -/
theorem onMessage_congr {message : Message}
    (hdomain : Registry.domain? situation.store message.action.domainName =
      Registry.domain? store message.action.domainName)
    (haccount : ∀ name, Registry.account? situation.store message.action.domainName name =
      Registry.account? store message.action.domainName name) :
    onMessage situation message = onMessage (situation.over store) message := by
  obtain ⟨signer, feePayer, action⟩ := message
  cases action with
  | domain name action => exact onDomain_congr hdomain signer action
  | account domainName name action => exact onAccount_congr hdomain (haccount name) signer action

end Decision

end NameRegistry
