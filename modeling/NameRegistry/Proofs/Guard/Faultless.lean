import NameRegistry.Delivery.Decision
import NameRegistry.Proofs.Failure
/-!
Checks without faults. A check on a record is a fault unless the record has been found, so it is
the order of the checks that keeps faults out: each check on the record has to stand behind the one
that finds it (`Update.ordered`). The checks of every message are ordered, whatever the store holds
(`Decision.faultless_onMessage`).
-/
namespace NameRegistry

variable {σ ι α β : Type}

/-- Whether a failure reports a broken rule. -/
def Failure.IsError : Failure → Prop
  | error _ => True
  | fault _ => False

/-- Whether a result is a value or an error, and not a fault. -/
def Faultless (result : Except Failure α) : Prop :=
  ∀ failure, result = .error failure → failure.IsError

theorem faultless_ok {value : α} : Faultless (.ok value) := nofun

theorem faultless_lift (result : Except Error α) : Faultless (liftM result : Except Failure α) := by
  cases result with
  | ok value => exact faultless_ok
  | error error =>
      rintro failure ⟨rfl⟩
      trivial

theorem faultless_bind {result : Except Failure α} {next : α → Except Failure β}
    (h : Faultless result) (hnext : ∀ value, Faultless (next value)) :
    Faultless (result >>= next) := by
  cases result with
  | ok value => exact hnext value
  | error failure =>
      rintro _ ⟨rfl⟩
      exact h failure rfl

namespace Update

/-- Whether an update of a state meets no fault, and leaves what is told if it comes to its end. -/
def Clean (update : Update σ α) (state : σ) (leaves : σ → Prop) : Prop :=
  match update state with
  | .ok _ after => leaves after
  | .error failure _ => failure.IsError

variable {state : σ} {leaves : σ → Prop}

theorem clean_pure {value : α} (h : leaves state) : Clean (pure value) state leaves := h

theorem clean_get {next : σ → Update σ α} (h : Clean (next state) state leaves) :
    Clean (get >>= next) state leaves := h

theorem clean_set {after : σ} {next : Unit → Update σ α} (h : Clean (next ()) after leaves) :
    Clean (set after >>= next) state leaves := h

theorem clean_lift {result : Except Failure α} (h : Faultless result)
    (hleaves : ∀ value, result = .ok value → leaves state) :
    Clean (liftM result) state leaves := by
  cases result with
  | ok value => exact hleaves value rfl
  | error failure => exact h failure rfl

theorem clean_bind {update : Update σ β} {next : β → Update σ α} {between : σ → Prop}
    (h : Clean update state between)
    (hnext : ∀ value after, between after → Clean (next value) after leaves) :
    Clean (update >>= next) state leaves := by
  have hsteps : (update >>= next) state = EStateM.bind update next state := rfl
  rw [Clean] at h ⊢
  rw [hsteps, EStateM.bind]
  revert h
  cases update state with
  | ok value after => exact hnext value after
  | error failure after => exact id

theorem clean_lift_bind {result : Except Failure β} {next : β → Update σ α}
    (h : Faultless result) (hnext : ∀ value, result = .ok value → Clean (next value) state leaves) :
    Clean (liftM result >>= next) state leaves := by
  cases result with
  | ok value => exact hnext value rfl
  | error failure => exact h failure rfl

theorem clean_withContext {context : String} {update : Update σ α}
    (h : Clean update state leaves) : Clean (withContext context update) state leaves := by
  rw [Clean] at h ⊢
  rw [withContext]
  revert h
  rcases update state with _ | ⟨_ | _, _⟩ <;> exact id

theorem faultless_evaluate {update : Update σ α} (leaves : σ → Prop)
    (h : Clean update state leaves) : Faultless (evaluate update state) := by
  rw [Clean] at h
  rw [evaluate]
  revert h
  cases update state with
  | ok value after => exact fun _ => faultless_ok
  | error failure after =>
      rintro h _ ⟨rfl⟩
      exact h

/-- Whether each item that needs something stands behind one that provides it, if it is not there
from the start. -/
def ordered (needs provides : ι → Bool) : Bool → List ι → Bool
  | _, [] => true
  | found, item :: rest =>
      (needs item → found) && ordered needs provides (found || provides item) rest

theorem clean_forM {step : ι → Update σ Unit} {needs provides : ι → Bool}
    {holds : Bool → σ → Prop} {items : List ι}
    (hstep : ∀ item ∈ items, ∀ {found : Bool} {state : σ}, holds found state →
      (needs item = true → found = true) →
        Clean (step item) state (holds (found || provides item)))
    {found : Bool} (hordered : ordered needs provides found items = true)
    (hstate : holds found state) :
    Clean (items.forM step) state (holds (found || items.any provides)) := by
  induction items generalizing found state with
  | nil =>
      rw [List.any_nil, Bool.or_false]
      exact clean_pure hstate
  | cons item rest ih =>
      rw [ordered, Bool.and_eq_true, decide_eq_true_iff] at hordered
      obtain ⟨hneeds, hrest⟩ := hordered
      rw [List.any_cons, ← Bool.or_assoc]
      refine clean_bind (hstep item List.mem_cons_self hstate hneeds) ?_
      intro _ after hafter
      exact ih (fun item' hitem => hstep item' (List.mem_cons_of_mem _ hitem)) hrest hafter

end Update

open Update

/-- Whether a check is on the record. -/
def DomainCheck.onRecord : DomainCheck → Bool
  | mustExist | mustNotExist | validName => false
  | _ => true

/-- Whether a check that passes has found the record. -/
def DomainCheck.finds : DomainCheck → Bool
  | mustExist => true
  | _ => false

namespace DomainGuard

/-- Whether a guard has found its record, if it is said to have. -/
def Found (found : Bool) (guard : DomainGuard) : Prop :=
  found = true → ∃ domain, guard.lookup = some (some domain)

theorem faultless_record {guard : DomainGuard} (h : guard.Found true) (caller : String) :
    Faultless (guard.record caller) := by
  obtain ⟨domain, hlookup⟩ := h rfl
  rw [record, hlookup]
  exact faultless_ok

theorem clean_take {guard : DomainGuard} (h : guard.Found true) :
    Clean (do (← get).take) guard (Found true) := by
  obtain ⟨domain, hlookup⟩ := h rfl
  have htake : guard.take = .ok domain := by rw [take, hlookup]
  refine clean_get (clean_lift ?_ fun _ _ => h)
  rw [htake]
  exact faultless_ok

theorem faultless_test (situation : Situation σ) {guard : DomainGuard} {condition : DomainCheck}
    (h : guard.Found condition.onRecord) : Faultless (guard.test situation condition) := by
  cases condition with
  | mustExist => exact faultless_ok
  | mustNotExist => exact faultless_ok
  | validName => exact faultless_bind (faultless_lift _) fun _ => faultless_lift _
  | _ => exact faultless_bind (faultless_record h _) fun _ => faultless_lift _

variable [KeyValueStore σ] (situation : Situation σ)

theorem lookUp_eq_ok {guard after : DomainGuard} {store : σ} {found? : Option Domain}
    (h : guard.lookUp store = .ok (found?, after)) :
    after.lookup = some found? ∧ ∀ known, guard.lookup = some known → known = found? := by
  rw [lookUp] at h
  cases hlookup : guard.lookup with
  | some known =>
      rw [hlookup] at h
      cases h
      exact ⟨hlookup, fun _ hknown => (Option.some.inj hknown).symm⟩
  | none =>
      rw [hlookup] at h
      obtain ⟨found, _, hfound⟩ := bind_eq_ok_iff.mp h
      cases hfound
      exact ⟨rfl, nofun⟩

theorem clean_check {condition : DomainCheck} {found : Bool} {guard : DomainGuard}
    (h : guard.Found found) (hcondition : condition.onRecord = true → found = true) :
    Clean (check situation condition) guard (Found (found || condition.finds)) := by
  have hstays : guard.Found (found || false) := by rwa [Bool.or_false]
  have htest : Clean (liftM (guard.test situation condition) : Update DomainGuard Unit) guard
      (Found (found || false)) :=
    clean_lift (faultless_test situation fun honRecord => h (hcondition honRecord))
      fun _ _ => hstays
  cases condition with
  | mustExist =>
      refine clean_get (clean_lift_bind (faultless_lift _) ?_)
      rintro ⟨found?, after⟩ hlookUp
      refine clean_set (clean_lift (faultless_lift _) fun _ hrequire _ => ?_)
      have hsome := require_eq_ok_iff.mp (lift_eq_ok_iff.mp hrequire)
      obtain ⟨domain, rfl⟩ := Option.isSome_iff_exists.mp hsome
      exact ⟨domain, (lookUp_eq_ok (lift_eq_ok_iff.mp hlookUp)).1⟩
  | mustNotExist =>
      refine clean_get (clean_lift_bind (faultless_lift _) ?_)
      rintro ⟨found?, after⟩ hlookUp
      refine clean_set (clean_lift (faultless_lift _) fun _ hrequire hfound => ?_)
      -- Where the record has been found before, this check does not pass.
      have hnone := require_eq_ok_iff.mp (lift_eq_ok_iff.mp hrequire)
      obtain ⟨domain, hlookup⟩ := hstays hfound
      obtain rfl := (lookUp_eq_ok (lift_eq_ok_iff.mp hlookUp)).2 _ hlookup
      cases hnone
  | _ => exact htest

theorem clean_validate {checks : List DomainCheck} {found : Bool} {guard : DomainGuard}
    (hchecks : ordered DomainCheck.onRecord DomainCheck.finds found checks = true)
    (h : guard.Found found) :
    Clean (validate situation checks) guard (Found (found || checks.any DomainCheck.finds)) :=
  clean_forM (fun _ _ _ _ hguard hcondition => clean_check situation hguard hcondition) hchecks h

theorem clean_validate_of (name : String) {checks : List DomainCheck}
    (hchecks : ordered DomainCheck.onRecord DomainCheck.finds false checks = true) :
    Clean (validate situation checks) (of name) (Found (checks.any DomainCheck.finds)) :=
  clean_validate situation hchecks nofun

end DomainGuard

/-- Whether a check is on the record. -/
def AccountCheck.onRecord : AccountCheck → Bool
  | mustExist | mustNotExist | notRoot | validName | validTargets _ | certificateSize _
  | metadataSize _ => false
  | _ => true

/-- Whether a check that passes has found the record. -/
def AccountCheck.finds : AccountCheck → Bool
  | mustExist => true
  | _ => false

/-- Whether a check is on the domain above. -/
def AccountCheck.onParent : AccountCheck → Bool
  | deletableBy _ | transferableBy _ => true
  | _ => false

namespace AccountGuard

/-- Whether a guard has found its record, if it is said to have, under the given domain. -/
def Found (parent : Option Domain) (found : Bool) (guard : AccountGuard) : Prop :=
  guard.parent = parent ∧ (found = true → ∃ account, guard.lookup = some (some account))

variable {parent : Option Domain}

theorem faultless_record {guard : AccountGuard} (h : guard.Found parent true) (caller : String) :
    Faultless (guard.record caller) := by
  obtain ⟨account, hlookup⟩ := h.2 rfl
  rw [record, hlookup]
  exact faultless_ok

theorem clean_take {guard : AccountGuard} (h : guard.Found parent true) :
    Clean (do (← get).take) guard (Found parent true) := by
  obtain ⟨account, hlookup⟩ := h.2 rfl
  have htake : guard.take = .ok account := by rw [take, hlookup]
  refine clean_get (clean_lift ?_ fun _ _ => h)
  rw [htake]
  exact faultless_ok

theorem faultless_domainAbove {guard : AccountGuard} {domain : Domain}
    (h : guard.parent = some domain) (caller : String) :
    Faultless (guard.domainAbove caller) := by
  rw [domainAbove, h]
  exact faultless_ok

theorem faultless_test (situation : Situation σ) {guard : AccountGuard} {condition : AccountCheck}
    (h : guard.Found parent condition.onRecord)
    (hparent : parent.isSome ∨ condition.onParent = false) :
    Faultless (guard.test situation condition) := by
  have habove (honParent : condition.onParent = true) (caller : String) :
      Faultless (guard.domainAbove caller) := by
    rw [honParent] at hparent
    obtain ⟨domain, hdomain⟩ := Option.isSome_iff_exists.mp (hparent.resolve_right (by simp))
    exact faultless_domainAbove (h.1.trans hdomain) caller
  cases condition with
  | mustExist => exact faultless_ok
  | mustNotExist => exact faultless_ok
  | notRoot => exact faultless_lift _
  | validName => exact faultless_bind (faultless_lift _) fun _ => faultless_lift _
  | validTargets targets => exact faultless_bind (faultless_lift _) fun _ => faultless_lift _
  | certificateExists certificate => exact faultless_ok
  | certificateSize certificate => exact faultless_lift _
  | metadataSize uri => exact faultless_lift _
  | deletableBy address =>
      refine faultless_bind (habove rfl _) fun _ => ?_
      exact faultless_bind (faultless_record h _) fun _ => faultless_lift _
  | transferableBy address =>
      refine faultless_bind (habove rfl _) fun _ => ?_
      exact faultless_bind (faultless_record h _) fun _ => faultless_lift _
  | _ => exact faultless_bind (faultless_record h _) fun _ => faultless_lift _

variable [KeyValueStore σ] (situation : Situation σ)

theorem lookUp_eq_ok {guard after : AccountGuard} {store : σ} {found? : Option Account}
    (h : guard.lookUp store = .ok (found?, after)) :
    after.parent = guard.parent ∧ after.lookup = some found? ∧
      ∀ known, guard.lookup = some known → known = found? := by
  rw [lookUp] at h
  cases hlookup : guard.lookup with
  | some known =>
      rw [hlookup] at h
      cases h
      exact ⟨rfl, hlookup, fun _ hknown => (Option.some.inj hknown).symm⟩
  | none =>
      rw [hlookup] at h
      obtain ⟨found, _, hfound⟩ := bind_eq_ok_iff.mp h
      cases hfound
      exact ⟨rfl, rfl, nofun⟩

theorem clean_check {condition : AccountCheck} {found : Bool} {guard : AccountGuard}
    (h : guard.Found parent found) (hcondition : condition.onRecord = true → found = true)
    (hparent : parent.isSome ∨ condition.onParent = false) :
    Clean (check situation condition) guard (Found parent (found || condition.finds)) := by
  have hstays : guard.Found parent (found || false) := by rwa [Bool.or_false]
  have hrecord : guard.Found parent condition.onRecord :=
    ⟨h.1, fun honRecord => h.2 (hcondition honRecord)⟩
  have htest : Clean (liftM (guard.test situation condition) : Update AccountGuard Unit) guard
      (Found parent (found || false)) :=
    clean_lift (faultless_test situation hrecord hparent) fun _ _ => hstays
  cases condition with
  | mustExist =>
      refine clean_get (clean_lift_bind (faultless_lift _) ?_)
      rintro ⟨found?, after⟩ hlookUp
      obtain ⟨hafter, hlookup, _⟩ := lookUp_eq_ok (lift_eq_ok_iff.mp hlookUp)
      refine clean_set (clean_lift (faultless_lift _) fun _ hrequire => ?_)
      have hsome := require_eq_ok_iff.mp (lift_eq_ok_iff.mp hrequire)
      obtain ⟨account, rfl⟩ := Option.isSome_iff_exists.mp hsome
      exact ⟨hafter.trans h.1, fun _ => ⟨account, hlookup⟩⟩
  | mustNotExist =>
      refine clean_get (clean_lift_bind (faultless_lift _) ?_)
      rintro ⟨found?, after⟩ hlookUp
      obtain ⟨hafter, _, hknown⟩ := lookUp_eq_ok (lift_eq_ok_iff.mp hlookUp)
      refine clean_set (clean_lift (faultless_lift _) fun _ hrequire => ?_)
      refine ⟨hafter.trans h.1, fun hfound => ?_⟩
      have hnone := require_eq_ok_iff.mp (lift_eq_ok_iff.mp hrequire)
      obtain ⟨account, hlookup⟩ := hstays.2 hfound
      obtain rfl := hknown _ hlookup
      cases hnone
  | certificateExists certificate =>
      refine clean_get (clean_lift_bind (faultless_record hrecord _) fun account _ => ?_)
      cases account.certificates.idxOf? certificate with
      | none => trivial
      | some position => exact hstays
  | _ => exact htest

theorem clean_validate {checks : List AccountCheck} {found : Bool} {guard : AccountGuard}
    (hchecks : ordered AccountCheck.onRecord AccountCheck.finds found checks = true)
    (hparent : parent.isSome ∨ checks.any AccountCheck.onParent = false)
    (h : guard.Found parent found) :
    Clean (validate situation checks) guard
      (Found parent (found || checks.any AccountCheck.finds)) := by
  refine clean_forM (fun condition hmem _ _ hguard hcondition => ?_) hchecks h
  refine clean_check situation hguard hcondition (hparent.imp id fun hnone => ?_)
  rw [List.any_eq_false] at hnone
  exact Bool.eq_false_iff.mpr (hnone condition hmem)

theorem clean_validate_of (domainName name : String) (parent : Option Domain)
    {checks : List AccountCheck}
    (hchecks : ordered AccountCheck.onRecord AccountCheck.finds false checks = true)
    (hparent : parent.isSome ∨ checks.any AccountCheck.onParent = false) :
    Clean (validate situation checks) (of domainName name parent)
      (Found parent (checks.any AccountCheck.finds)) :=
  clean_validate situation hchecks hparent ⟨rfl, nofun⟩

end AccountGuard

namespace Decision

variable [KeyValueStore σ] (situation : Situation σ)

theorem faultless_loadDomain (name : String) {checks : List DomainCheck}
    (hchecks : ordered DomainCheck.onRecord DomainCheck.finds false checks = true)
    (hfinds : checks.any DomainCheck.finds = true) :
    Faultless (loadDomain situation name checks) := by
  have hvalidate := DomainGuard.clean_validate_of situation name hchecks
  rw [hfinds] at hvalidate
  exact faultless_evaluate _ (clean_bind hvalidate fun _ _ => DomainGuard.clean_take)

theorem faultless_loadAccount (domainName name : String) {parent : Option Domain}
    {checks : List AccountCheck}
    (hchecks : ordered AccountCheck.onRecord AccountCheck.finds false checks = true)
    (hparent : parent.isSome ∨ checks.any AccountCheck.onParent = false)
    (hfinds : checks.any AccountCheck.finds = true) :
    Faultless (loadAccount situation domainName name parent checks) := by
  have hvalidate := AccountGuard.clean_validate_of situation domainName name parent hchecks
    hparent
  rw [hfinds] at hvalidate
  exact faultless_evaluate _ (clean_bind hvalidate fun _ _ => AccountGuard.clean_take)

theorem faultless_openToRegistration (signer : Address) (name : String) :
    Faultless (openToRegistration situation signer name) := by
  have hvalidate := DomainGuard.clean_validate_of situation name
    (rfl : ordered _ _ false [.mustExist, .notExpired] = true)
  apply faultless_evaluate (DomainGuard.Found true)
  refine clean_bind hvalidate fun _ guard hguard => ?_
  refine clean_get (clean_lift_bind (DomainGuard.faultless_record hguard _) fun domain _ => ?_)
  split
  · have hadmin := DomainGuard.clean_validate situation
      (rfl : ordered _ _ true [.admin signer] = true) hguard
    exact clean_bind (clean_withContext hadmin) fun _ _ => DomainGuard.clean_take
  · exact DomainGuard.clean_take hguard

theorem faultless_onDomain (signer : Address) (name : String) (action : DomainAction) :
    Faultless (onDomain situation signer name action) := by
  have hadministered : Faultless (loadDomain situation name (administered signer)) :=
    faultless_loadDomain situation name rfl rfl
  cases action with
  | register domainType broker =>
      have hvalidate := DomainGuard.clean_validate_of situation name
        (rfl : ordered _ _ false [.mustNotExist, .validName] = true)
      refine faultless_bind (faultless_lift _) fun _ => ?_
      exact faultless_bind (faultless_evaluate _ hvalidate) fun _ => faultless_ok
  | renew =>
      exact faultless_bind (faultless_loadDomain situation name rfl rfl) fun _ => faultless_ok
  | delete =>
      have hvalidate := DomainGuard.clean_validate_of situation name
        (rfl : ordered _ _ false [.mustExist, .type .closed] = true)
      refine faultless_bind (faultless_evaluate (DomainGuard.Found true) ?_) fun _ => faultless_ok
      refine clean_bind hvalidate fun _ guard hguard => ?_
      refine clean_get (clean_lift_bind (DomainGuard.faultless_record hguard _) fun domain _ => ?_)
      split
      · exact clean_withContext (DomainGuard.clean_validate situation rfl hguard)
      · exact clean_pure hguard
  | transfer newAdmin flag =>
      refine faultless_bind (faultless_lift _) fun _ => ?_
      exact faultless_bind hadministered fun _ => faultless_ok
  | flush => exact faultless_bind hadministered fun _ => faultless_ok

theorem faultless_onAccount (signer : Address) (domainName name : String)
    (action : AccountAction) : Faultless (onAccount situation signer domainName name action) := by
  have hdomain : Faultless (loadDomain situation domainName [.mustExist]) :=
    faultless_loadDomain situation domainName rfl rfl
  cases action with
  | register owner targets broker =>
      have hvalidate := AccountGuard.clean_validate_of situation domainName name none
        (rfl : ordered _ _ false [.mustNotExist, .validName, .validTargets targets] = true)
        (Or.inr rfl)
      refine faultless_bind (faultless_lift _) fun _ => ?_
      refine faultless_bind (faultless_openToRegistration situation signer domainName) fun _ => ?_
      exact faultless_bind (faultless_evaluate _ hvalidate) fun _ => faultless_ok
  | renew =>
      refine faultless_bind hdomain fun _ => ?_
      exact faultless_bind (faultless_loadAccount situation _ _ rfl (Or.inr rfl) rfl)
        fun _ => faultless_ok
  | delete =>
      refine faultless_bind hdomain fun _ => ?_
      exact faultless_bind (faultless_loadAccount situation _ _ rfl (Or.inl rfl) rfl)
        fun _ => faultless_ok
  | transfer newOwner reset =>
      refine faultless_bind (faultless_lift _) fun _ => ?_
      refine faultless_bind hdomain fun _ => ?_
      exact faultless_bind (faultless_loadAccount situation _ _ rfl (Or.inl rfl) rfl)
        fun _ => faultless_ok
  | addCertificate certificate =>
      exact faultless_bind (faultless_loadAccount situation _ _ rfl (Or.inr rfl) rfl)
        fun _ => faultless_ok
  | deleteCertificate certificate =>
      have hvalidate := AccountGuard.clean_validate_of situation domainName name none
        (rfl : ordered _ _ false
          [.mustExist, .owner signer, .certificateExists certificate] = true) (Or.inr rfl)
      apply faultless_evaluate (AccountGuard.Found none true)
      refine clean_bind hvalidate fun _ guard hguard => clean_get ?_
      split
      · refine clean_bind (AccountGuard.clean_take hguard) ?_
        intro account guard hguard
        exact clean_pure hguard
      · trivial
  | replaceTargets targets =>
      refine faultless_bind hdomain fun domain => ?_
      have haccount : Faultless (loadAccount situation domainName name domain
          ([.mustExist, .owner signer, .validTargets targets] ++
            if domain.domainType = .opened then [AccountCheck.notExpired] else [])) := by
        split
        · exact faultless_loadAccount situation _ _ rfl (Or.inl rfl) rfl
        · exact faultless_loadAccount situation _ _ rfl (Or.inl rfl) rfl
      exact faultless_bind haccount fun _ => faultless_ok
  | replaceMetadata uri =>
      exact faultless_bind (faultless_loadAccount situation _ _ rfl (Or.inr rfl) rfl)
        fun _ => faultless_ok

/-- Deciding on a message meets no fault, whatever the store holds. -/
theorem faultless_onMessage (message : Message) : Faultless (onMessage situation message) := by
  obtain ⟨signer, feePayer, action⟩ := message
  cases action with
  | domain name action => exact faultless_onDomain situation signer name action
  | account domainName name action =>
      exact faultless_onAccount situation signer domainName name action

end Decision

end NameRegistry
