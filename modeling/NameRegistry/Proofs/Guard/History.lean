import NameRegistry.Proofs.Delivery.Reachable
import NameRegistry.Proofs.Guard.Account
import NameRegistry.Proofs.Guard.Domain
import NameRegistry.Proofs.Guard.Faultless
/-!
What lets a guard give its record. A guard remembers what it has looked up from one call of
`validate` to the next, also if the call fails. So its record can be asked for, and checks on the
record meet no fault, exactly from the first check on that has found the record: a check that it
exists, which passes then, or that it does not, which fails (`guards_give_found`).
-/
namespace NameRegistry

open Update

variable {ι γ ρ σ : Type}

/-- A check that was done, and the error that it ended with if it did not pass. -/
abbrev Checked (ι : Type) := ι × Option Error

/-- Checks that have all passed. -/
def allPassed (checks : List ι) : List (Checked ι) := checks.map (·, none)

theorem any_allPassed_cons (finds : Checked ι → Bool) (check : ι) (checks : List ι) :
    (allPassed (check :: checks)).any finds =
      (finds (check, none) || (allPassed checks).any finds) := rfl

/-- The guards that calls of `validate` with lists of checks lead to, and what came of the checks
that were done. The guard is used on after a call that fails with an error: what this one has done
are the checks that pass and the one that does not. A fault leads nowhere. -/
inductive Validated (validate : List ι → Update γ Unit) (start : γ) : List (Checked ι) → γ → Prop
  | start : Validated validate start [] start
  | passed {log : List (Checked ι)} {guard after : γ} (checks : List ι) :
      Validated validate start log guard → validate checks guard = .ok () after →
        Validated validate start (log ++ allPassed checks) after
  | refused {log : List (Checked ι)} {guard after : γ} {error : Error} (check : ι) :
      Validated validate start log guard → validate [check] guard = .error (.error error) after →
        Validated validate start (log ++ [(check, some error)]) after

/-- Whether a guard gives its record exactly if a check has found it. At every point that calls of
`validate` lead to, within a call or behind one, a check meets a fault only if it is on the record
and no check has found that before, and so it is with those who ask for the record. -/
structure GuardsRecord (validate : List ι → Update γ Unit) (start : γ) (onRecord : ι → Bool)
    (finds : Checked ι → Bool) (accessors : List (γ → Except Failure ρ)) : Prop where
  /-- A call ends behind all its checks, or as the first of them ends that does not pass. -/
  call {log : List (Checked ι)} {guard : γ} : Validated validate start log guard →
    ∀ checks, (∃ after, validate checks guard = .ok () after) ∨
      ∃ before check rest between failure after, checks = before ++ check :: rest ∧
        Validated validate start (log ++ allPassed before) between ∧
        validate [check] between = .error failure after ∧
        validate checks guard = .error failure after
  check {log : List (Checked ι)} {guard : γ} : Validated validate start log guard →
    ∀ check, Faultless (evaluate (validate [check]) guard) ↔
      (onRecord check = true → log.any finds = true)
  access {log : List (Checked ι)} {guard : γ} : Validated validate start log guard →
    ∀ accessor ∈ accessors,
      if log.any finds then ∃ record, accessor guard = .ok record
      else ∃ fault, accessor guard = .error (.fault fault)

section Steps

variable {step : ι → Update γ Unit}

theorem forM_singleton (step : ι → Update γ Unit) (item : ι) : [item].forM step = step item :=
  bind_pure (step item)

theorem forM_cons_of_ok {item : ι} {state between : γ} (h : step item state = .ok () between)
    (items : List ι) : (item :: items).forM step state = items.forM step between := by
  change EStateM.bind (step item) (fun _ => items.forM step) state = _
  rw [EStateM.bind, h]

theorem forM_cons_of_error {item : ι} {state after : γ} {failure : Failure}
    (h : step item state = .error failure after) (items : List ι) :
    (item :: items).forM step state = .error failure after := by
  change EStateM.bind (step item) (fun _ => items.forM step) state = _
  rw [EStateM.bind, h]

theorem forM_cases (items : List ι) (state : γ) :
    (∃ after, items.forM step state = .ok () after) ∨
      ∃ before item rest between failure after, items = before ++ item :: rest ∧
        before.forM step state = .ok () between ∧ step item between = .error failure after ∧
        items.forM step state = .error failure after := by
  induction items generalizing state with
  | nil => exact .inl ⟨state, rfl⟩
  | cons item rest ih =>
      cases hitem : step item state with
      | error failure after =>
          exact .inr ⟨[], item, rest, state, failure, after, rfl, rfl, hitem,
            forM_cons_of_error hitem rest⟩
      | ok value between =>
          rw [forM_cons_of_ok hitem]
          rcases ih between with
            hpassed | ⟨before, failing, others, last, failure, after, rfl, hrun⟩
          · exact .inl hpassed
          · refine .inr ⟨item :: before, failing, others, last, failure, after, rfl, ?_⟩
            rw [forM_cons_of_ok hitem]
            exact hrun

/-- Whether what a check makes of a guard is what it has found: it meets a fault only if it is on
the record and that is not there, and the record is there afterwards if it was there before or the
check has found it. `kept` is what else a check leaves as it is. -/
def Tracks (kept loaded : γ → Prop) (onRecord : ι → Bool) (finds : Checked ι → Bool) (check : ι)
    (guard : γ) : EStateM.Result Failure γ Unit → Prop
  | .ok _ after => (onRecord check = true → loaded guard) ∧ kept after ∧
      (loaded after ↔ loaded guard ∨ finds (check, none) = true)
  | .error (.error error) after => (onRecord check = true → loaded guard) ∧ kept after ∧
      (loaded after ↔ loaded guard ∨ finds (check, some error) = true)
  | .error (.fault _) _ => onRecord check = true ∧ ¬ loaded guard

variable {kept loaded : γ → Prop} {onRecord : ι → Bool} {finds : Checked ι → Bool} {start : γ}
  {accessors : List (γ → Except Failure ρ)}

theorem Tracks.faultless_iff {check : ι} {guard : γ} {update : Update γ Unit}
    (h : Tracks kept loaded onRecord finds check guard (update guard)) :
    Faultless (evaluate update guard) ↔ (onRecord check = true → loaded guard) := by
  rw [evaluate]
  revert h
  rcases update guard with ⟨_, after⟩ | ⟨error | fault, after⟩
  · exact fun h => ⟨fun _ => h.1, fun _ => faultless_ok⟩
  · exact fun h => ⟨fun _ => h.1, fun _ => faultless_lift (.error error)⟩
  · refine fun h => ⟨fun hfaultless => (hfaultless _ rfl).elim, fun hloaded => ?_⟩
    exact absurd (hloaded h.1) h.2

theorem tracks_lift {result : Except Failure Unit} {check : ι} {guard : γ} (hkept : kept guard)
    (hfinds : ∀ error?, finds (check, error?) = false)
    (h : Faultless result ↔ (onRecord check = true → loaded guard)) :
    Tracks kept loaded onRecord finds check guard ((liftM result : Update γ Unit) guard) := by
  have hstays (error? : Option Error) :
      loaded guard ↔ loaded guard ∨ finds (check, error?) = true := by simp [hfinds]
  rcases result with ⟨error | fault⟩ | _
  · exact ⟨h.mp (faultless_lift (.error error)), hkept, hstays _⟩
  · have hfault : ¬ Faultless (.error (.fault fault) : Except Failure Unit) := fun h => h _ rfl
    rw [h, Classical.not_imp] at hfault
    exact hfault
  · exact ⟨h.mp faultless_ok, hkept, hstays _⟩

theorem tracks_lookUp {result : Except Error (Option ρ × γ)} {wanted : Option ρ → Bool}
    {kind : ErrorKind} {detail : γ → String} {check : ι} {guard : γ} (hkept : kept guard)
    (honRecord : onRecord check = false)
    (hrefused : ∀ error, result = .error error → finds (check, some error) = false)
    (hfound : ∀ found? after, result = .ok (found?, after) → kept after ∧
      (loaded after ↔ found?.isSome = true) ∧ (loaded guard → found?.isSome = true))
    (hfinds : ∀ found? detail, finds (check, if wanted found? then none else some ⟨kind, detail⟩) =
      found?.isSome) :
    Tracks kept loaded onRecord finds check guard
      ((do
        let (found?, after) ← liftM (liftM result : Except Failure (Option ρ × γ))
        set after
        liftM (liftM (require (wanted found?) kind (detail after)) : Except Failure Unit) :
          Update γ Unit) guard) := by
  have hneeds : onRecord check = true → loaded guard := by simp [honRecord]
  cases result with
  | error error =>
      refine ⟨hneeds, hkept, ?_⟩
      rw [hrefused error rfl]
      simp
  | ok found =>
      obtain ⟨found?, after⟩ := found
      obtain ⟨hafter, hloaded, hknown⟩ := hfound found? after rfl
      have houtcome := hfinds found? (detail after)
      have htold : loaded after ↔ loaded guard ∨ found?.isSome = true := by
        rw [hloaded, or_iff_right_of_imp hknown]
      rw [← houtcome] at htold
      change Tracks _ _ _ _ _ _ ((liftM (liftM (require _ _ _) : Except Failure Unit) :
        Update γ Unit) after)
      revert htold
      rw [require]
      cases wanted found? with
      | true => exact fun htold => ⟨hneeds, hafter, htold⟩
      | false => exact fun htold => ⟨hneeds, hafter, htold⟩

section Calls

variable (hstep : ∀ check guard, kept guard →
  Tracks kept loaded onRecord finds check guard (step check guard))

include hstep

theorem loaded_of_forM {checks : List ι} {guard after : γ} (hkept : kept guard)
    (h : checks.forM step guard = .ok () after) :
    kept after ∧ (loaded after ↔ loaded guard ∨ (allPassed checks).any finds = true) := by
  induction checks generalizing guard with
  | nil =>
      cases h
      simp [hkept, allPassed]
  | cons check rest ih =>
      have htracks := hstep check guard hkept
      cases hcheck : step check guard with
      | error failure between =>
          rw [forM_cons_of_error hcheck] at h
          cases h
      | ok value between =>
          rw [forM_cons_of_ok hcheck] at h
          rw [hcheck] at htracks
          obtain ⟨-, hbetween, hloaded⟩ := htracks
          obtain ⟨hafter, hrest⟩ := ih hbetween h
          refine ⟨hafter, ?_⟩
          rw [hrest, hloaded, or_assoc, any_allPassed_cons, Bool.or_eq_true]

variable (hstart : kept start ∧ ¬ loaded start)

include hstart

theorem loaded_of_validated {log : List (Checked ι)} {guard : γ}
    (h : Validated (fun checks => checks.forM step) start log guard) :
    kept guard ∧ (loaded guard ↔ log.any finds = true) := by
  induction h with
  | start => simp [hstart]
  | passed checks _ hvalidate ih =>
      obtain ⟨hkept, hloaded⟩ := loaded_of_forM hstep ih.1 hvalidate
      refine ⟨hkept, ?_⟩
      rw [hloaded, ih.2, List.any_append, Bool.or_eq_true]
  | refused check _ hvalidate ih =>
      have htracks := hstep check _ ih.1
      rw [forM_singleton] at hvalidate
      rw [hvalidate] at htracks
      obtain ⟨-, hkept, hloaded⟩ := htracks
      refine ⟨hkept, ?_⟩
      rw [hloaded, ih.2, List.any_append, Bool.or_eq_true, List.any_cons, List.any_nil,
        Bool.or_false]

theorem guardsRecord_of_tracks
    (haccess : ∀ accessor ∈ accessors, ∀ guard : γ,
      (loaded guard ∧ ∃ record, accessor guard = .ok record) ∨
        (¬ loaded guard ∧ ∃ fault, accessor guard = .error (.fault fault))) :
    GuardsRecord (fun checks => checks.forM step) start onRecord finds accessors where
  call {log guard} h checks := by
    rcases forM_cases checks guard with
      hpassed | ⟨before, check, rest, between, failure, after, hchecks, hbefore, hcheck, hcall⟩
    · exact .inl hpassed
    · rw [← forM_singleton step] at hcheck
      exact .inr ⟨before, check, rest, between, failure, after, hchecks, .passed before h hbefore,
        hcheck, hcall⟩
  check {log guard} h check := by
    obtain ⟨hkept, hloaded⟩ := loaded_of_validated hstep hstart h
    rw [forM_singleton, (hstep check guard hkept).faultless_iff, hloaded]
  access {log guard} h accessor haccessor := by
    obtain ⟨-, hloaded⟩ := loaded_of_validated hstep hstart h
    rcases haccess accessor haccessor guard with ⟨hfound, hrecord⟩ | ⟨hmissing, hfault⟩
    · rwa [if_pos (hloaded.mp hfound)]
    · rwa [if_neg (hmissing ∘ hloaded.mpr)]

end Calls

end Steps

theorem not_faultless_bind {result : Except Failure ι} {next : ι → Except Failure ρ} {fault : Fault}
    (h : result = .error (.fault fault)) : ¬ Faultless (result >>= next) := by
  subst h
  exact fun hfaultless => hfaultless _ rfl

namespace Registry

variable [KeyValueStore σ] {store : σ} {error : Error}

theorem kind_of_domain? {name : String} (h : domain? store name = .error error) :
    error.kind = .serialization := by
  rw [domain?] at h
  split at h
  · next bytes _ =>
      rw [Domain.ofBytes] at h
      split at h
      · cases h
      · obtain rfl := Except.error.inj h
        rfl
  · cases h

theorem kind_of_account? {domain name : String} (h : account? store domain name = .error error) :
    error.kind = .serialization := by
  rw [account?] at h
  split at h
  · next bytes _ =>
      rw [Account.ofBytes] at h
      split at h
      · cases h
      · obtain rfl := Except.error.inj h
        rfl
  · cases h

end Registry

namespace DomainGuard

/-- Whether the record of a guard is there. -/
def Loaded (guard : DomainGuard) : Prop := ∃ domain, guard.lookup = some (some domain)

/-- Whether a check that was done has found the record: it was to be there, or it was not to be. -/
def finds : Checked DomainCheck → Bool
  | (.mustExist, none) => true
  | (.mustNotExist, some error) => error.kind = .domainAlreadyExists
  | _ => false

theorem record_eq_fault {guard : DomainGuard} (h : ¬ guard.Loaded) (caller : String) :
    guard.record caller = .error (.fault (.domainNotLoaded guard.name caller)) := by
  rw [record]
  split
  · next domain hlookup => exact absurd ⟨domain, hlookup⟩ h
  · rfl

theorem faultless_test_iff {situation : Situation σ} {guard : DomainGuard}
    {condition : DomainCheck} :
    Faultless (guard.test situation condition) ↔ (condition.onRecord = true → guard.Loaded) := by
  refine ⟨fun hfaultless honRecord => Classical.byContradiction fun hloaded => ?_,
    faultless_test situation⟩
  revert hfaultless
  cases condition with
  | mustExist | mustNotExist | validName => cases honRecord
  | _ => exact not_faultless_bind (record_eq_fault hloaded _)

theorem access_cases {accessor : DomainGuard → Except Failure Domain}
    (h : accessor ∈ [domain, take]) (guard : DomainGuard) :
    (guard.Loaded ∧ ∃ record, accessor guard = .ok record) ∨
      (¬ guard.Loaded ∧ ∃ fault, accessor guard = .error (.fault fault)) := by
  obtain ⟨name, lookup⟩ := guard
  simp only [List.mem_cons, List.not_mem_nil, or_false] at h
  rcases h with rfl | rfl <;> rcases lookup with _ | _ | found <;>
    simp [domain, record, take, Loaded]

variable [KeyValueStore σ] (situation : Situation σ)

theorem loaded_of_lookUp {guard after : DomainGuard} {store : σ} {found? : Option Domain}
    (h : guard.lookUp store = .ok (found?, after)) :
    (after.Loaded ↔ found?.isSome = true) ∧ (guard.Loaded → found?.isSome = true) := by
  obtain ⟨hafter, hknown⟩ := lookUp_eq_ok h
  constructor
  · rw [Loaded, hafter, Option.isSome_iff_exists]
    simp only [Option.some.injEq]
  · rintro ⟨domain, hlookup⟩
    rw [← hknown _ hlookup, Option.isSome_some]

theorem kind_of_lookUp {guard : DomainGuard} {store : σ} {error : Error}
    (h : guard.lookUp store = .error error) : error.kind = .serialization := by
  rw [lookUp] at h
  split at h
  · cases h
  · rcases bind_eq_error_iff.mp h with hdomain | ⟨_, _, hreturn⟩
    · exact Registry.kind_of_domain? hdomain
    · cases hreturn

theorem tracks_check (condition : DomainCheck) (guard : DomainGuard) :
    Tracks (fun _ => True) Loaded DomainCheck.onRecord finds condition guard
      (check situation condition guard) := by
  have htest (hfinds : ∀ error?, finds (condition, error?) = false) :
      Tracks (fun _ => True) Loaded DomainCheck.onRecord finds condition guard
        ((liftM (guard.test situation condition) : Update DomainGuard Unit) guard) :=
    tracks_lift trivial hfinds faultless_test_iff
  cases condition with
  | mustExist =>
      refine tracks_lookUp trivial rfl (fun _ _ => rfl) ?_ ?_
      · exact fun _ _ hlookUp => ⟨trivial, loaded_of_lookUp hlookUp⟩
      · rintro (_ | _) _ <;> rfl
  | mustNotExist =>
      refine tracks_lookUp trivial rfl ?_ ?_ ?_
      · intro error hlookUp
        simp [finds, kind_of_lookUp hlookUp]
      · exact fun _ _ hlookUp => ⟨trivial, loaded_of_lookUp hlookUp⟩
      · rintro (_ | _) _ <;> rfl
  | _ => exact htest fun _ => rfl

variable {name : String} {domain : Domain}
  (hfound : Registry.domain? situation.store name = .ok (some domain))

include hfound

theorem validate_mustExist_of :
    validate situation [.mustExist] (of name) = .ok () ⟨name, some (some domain)⟩ := by
  change EStateM.bind (EStateM.bind (liftM ((of name).lookUp situation.store)) _) _ _ = _
  rw [lookUp_of situation hfound]
  rfl

theorem validate_mustNotExist_of :
    validate situation [.mustNotExist] (of name) =
      .error (.error ⟨.domainAlreadyExists, name⟩) ⟨name, some (some domain)⟩ := by
  change EStateM.bind (EStateM.bind (liftM ((of name).lookUp situation.store)) _) _ _ = _
  rw [lookUp_of situation hfound]
  rfl

end DomainGuard

namespace AccountGuard

/-- Whether the record of a guard is there. -/
def Loaded (guard : AccountGuard) : Prop := ∃ account, guard.lookup = some (some account)

/-- Whether a guard was given the domain above. -/
def HasParent (guard : AccountGuard) : Prop := guard.parent.isSome = true

/-- Whether a check that was done has found the record: it was to be there, or it was not to be. -/
def finds : Checked AccountCheck → Bool
  | (.mustExist, none) => true
  | (.mustNotExist, some error) => error.kind = .accountExists
  | _ => false

theorem record_eq_fault {guard : AccountGuard} (h : ¬ guard.Loaded) (caller : String) :
    guard.record caller = .error (.fault (.accountNotLoaded guard.fullName caller)) := by
  rw [record]
  split
  · next account hlookup => exact absurd ⟨account, hlookup⟩ h
  · rfl

theorem domainAbove_bind {guard : AccountGuard} {β : Type} (h : guard.HasParent)
    (caller : String) : ∃ domain, ∀ next : Domain → Except Failure β,
      (guard.domainAbove caller >>= next) = next domain := by
  obtain ⟨domain, hparent⟩ := Option.isSome_iff_exists.mp h
  refine ⟨domain, fun next => ?_⟩
  rw [domainAbove, hparent]
  rfl

theorem faultless_test_iff {situation : Situation σ} {guard : AccountGuard}
    {condition : AccountCheck} (hparent : guard.HasParent)
    (hcondition : ∀ certificate, condition ≠ .certificateExists certificate) :
    Faultless (guard.test situation condition) ↔ (condition.onRecord = true → guard.Loaded) := by
  refine ⟨fun hfaultless honRecord => Classical.byContradiction fun hloaded => ?_,
    fun hrecord => faultless_test situation ⟨rfl, hrecord⟩ (.inl hparent)⟩
  revert hfaultless
  have hmissing (caller : String) := record_eq_fault hloaded caller
  cases condition with
  | mustExist | mustNotExist | notRoot | validName | validTargets _ | certificateSize _
  | metadataSize _ => cases honRecord
  | certificateExists certificate => exact absurd rfl (hcondition certificate)
  | deletableBy address | transferableBy address =>
      obtain ⟨domain, hdomain⟩ := domainAbove_bind hparent _
      rw [test, hdomain]
      exact not_faultless_bind (hmissing _)
  | _ => exact not_faultless_bind (hmissing _)

theorem access_cases {accessor : AccountGuard → Except Failure Account}
    (h : accessor ∈ [account, take]) (guard : AccountGuard) :
    (guard.Loaded ∧ ∃ record, accessor guard = .ok record) ∨
      (¬ guard.Loaded ∧ ∃ fault, accessor guard = .error (.fault fault)) := by
  obtain ⟨domainName, name, parent, lookup, index⟩ := guard
  simp only [List.mem_cons, List.not_mem_nil, or_false] at h
  rcases h with rfl | rfl <;> rcases lookup with _ | _ | found <;>
    simp [account, record, take, Loaded]

variable [KeyValueStore σ] (situation : Situation σ)

theorem loaded_of_lookUp {guard after : AccountGuard} {store : σ} {found? : Option Account}
    (h : guard.lookUp store = .ok (found?, after)) :
    (after.Loaded ↔ found?.isSome = true) ∧ (guard.Loaded → found?.isSome = true) := by
  obtain ⟨-, hafter, hknown⟩ := lookUp_eq_ok h
  constructor
  · rw [Loaded, hafter, Option.isSome_iff_exists]
    simp only [Option.some.injEq]
  · rintro ⟨account, hlookup⟩
    rw [← hknown _ hlookup, Option.isSome_some]

theorem kind_of_lookUp {guard : AccountGuard} {store : σ} {error : Error}
    (h : guard.lookUp store = .error error) : error.kind = .serialization := by
  rw [lookUp] at h
  split at h
  · cases h
  · rcases bind_eq_error_iff.mp h with haccount | ⟨_, _, hreturn⟩
    · exact Registry.kind_of_account? haccount
    · cases hreturn

theorem tracks_certificateExists (certificate : Bytes) {guard : AccountGuard}
    (hparent : guard.HasParent) :
    Tracks HasParent Loaded AccountCheck.onRecord finds (.certificateExists certificate) guard
      (check situation (.certificateExists certificate) guard) := by
  rw [check, Update.get_bind]
  by_cases hloaded : guard.Loaded
  · have hstays : guard.Loaded ↔ guard.Loaded ∨ false = true := by simp
    obtain ⟨account, hlookup⟩ := hloaded
    have hrecord : guard.record "CertificateExists" = .ok account := by rw [record, hlookup]
    rw [hrecord, Update.lift_ok_bind]
    cases account.certificates.idxOf? certificate with
    | none => exact ⟨fun _ => ⟨account, hlookup⟩, hparent, hstays⟩
    | some position => exact ⟨fun _ => ⟨account, hlookup⟩, hparent, hstays⟩
  · rw [record_eq_fault hloaded]
    exact ⟨rfl, hloaded⟩

theorem tracks_check (condition : AccountCheck) {guard : AccountGuard}
    (hparent : guard.HasParent) :
    Tracks HasParent Loaded AccountCheck.onRecord finds condition guard
      (check situation condition guard) := by
  have htest (hcondition : ∀ certificate, condition ≠ .certificateExists certificate)
      (hfinds : ∀ error?, finds (condition, error?) = false) :
      Tracks HasParent Loaded AccountCheck.onRecord finds condition guard
        ((liftM (guard.test situation condition) : Update AccountGuard Unit) guard) :=
    tracks_lift hparent hfinds (faultless_test_iff hparent hcondition)
  have hlookUp {found? : Option Account} {after : AccountGuard}
      (h : guard.lookUp situation.store = .ok (found?, after)) : after.HasParent ∧
        (after.Loaded ↔ found?.isSome = true) ∧ (guard.Loaded → found?.isSome = true) := by
    refine ⟨?_, loaded_of_lookUp h⟩
    rw [HasParent, (lookUp_eq_ok h).1]
    exact hparent
  cases condition with
  | mustExist =>
      refine tracks_lookUp hparent rfl (fun _ _ => rfl) (fun _ _ => hlookUp) ?_
      rintro (_ | _) _ <;> rfl
  | mustNotExist =>
      refine tracks_lookUp hparent rfl (fun error h => ?_) (fun _ _ => hlookUp) ?_
      · simp [finds, kind_of_lookUp h]
      · rintro (_ | _) _ <;> rfl
  | certificateExists certificate => exact tracks_certificateExists situation certificate hparent
  | _ => exact htest (fun _ => nofun) fun _ => rfl

theorem validate_mustNotExist_of {domainName name : String} {account : Account}
    (parent : Option Domain)
    (hfound : Registry.account? situation.store domainName name = .ok (some account)) :
    validate situation [.mustNotExist] (of domainName name parent) =
      .error (.error ⟨.accountExists, NameRegistry.fullName domainName name⟩)
        ((of domainName name parent).found account) := by
  change EStateM.bind (EStateM.bind (liftM ((of domainName name parent).lookUp _)) _) _ _ = _
  rw [lookUp_of situation parent hfound]
  rfl

end AccountGuard

/-- Guards of domains, and guards of accounts that were given the domain above, give their records
from the first check on that has found them. -/
theorem guards_give_found [KeyValueStore σ] (situation : Situation σ) :
    (∀ name, GuardsRecord (DomainGuard.validate situation) (.of name) DomainCheck.onRecord
      DomainGuard.finds [DomainGuard.domain, DomainGuard.take]) ∧
    ∀ (domain : Domain) name, GuardsRecord (AccountGuard.validate situation)
      (.of domain.name name (some domain)) AccountCheck.onRecord AccountGuard.finds
        [AccountGuard.account, AccountGuard.take] := by
  constructor
  · intro name
    have hstep (condition : DomainCheck) (guard : DomainGuard) (_ : True) :=
      DomainGuard.tracks_check situation condition guard
    exact guardsRecord_of_tracks hstep ⟨trivial, nofun⟩ fun _ => DomainGuard.access_cases
  · intro domain name
    have hstep (condition : AccountCheck) (guard : AccountGuard) (hparent : guard.HasParent) :=
      AccountGuard.tracks_check situation condition hparent
    exact guardsRecord_of_tracks hstep ⟨rfl, nofun⟩ fun _ => AccountGuard.access_cases

namespace Sample

/-- What checks look at beside the records of Alice and Bob. -/
def situation : Situation Store := ⟨Pattern.language, Config.testing, block 100, store⟩

/-- Alice's domain, as it stands in the store. -/
def aliceBank : Domain := ⟨"bank", alice, 1100, .closed, 500, none⟩

theorem domain?_aliceBank :
    Registry.domain? situation.store "bank" = .ok (some aliceBank) := by decide +kernel

theorem account?_teller :
    Registry.account? situation.store "bank" "teller" = .ok (some teller) := by decide +kernel

end Sample

/-- A guard of Alice's domain has no record to give at first, and has it when it is to exist. -/
theorem guards_give_found_sample :
    (∃ fault, (DomainGuard.of "bank").take = .error (.fault fault)) ∧
      ∃ guard, Validated (DomainGuard.validate Sample.situation) (.of "bank")
        [(.mustExist, none)] guard ∧ ∃ record, guard.take = .ok record := by
  obtain ⟨hdomains, -⟩ := guards_give_found Sample.situation
  have hstart : Validated (DomainGuard.validate Sample.situation) (.of "bank") [] _ := .start
  have hvalidated := hstart.passed [DomainCheck.mustExist]
    (DomainGuard.validate_mustExist_of Sample.situation Sample.domain?_aliceBank)
  have htake : DomainGuard.take ∈ [DomainGuard.domain, DomainGuard.take] := by simp
  have hfault := (hdomains "bank").access hstart _ htake
  have hrecord := (hdomains "bank").access hvalidated _ htake
  rw [if_neg (by decide)] at hfault
  rw [if_pos (by decide)] at hrecord
  exact ⟨hfault, _, hvalidated, hrecord⟩

/-- A check that fails because the record is there lets the guard give it, although none has passed
that it exists. -/
theorem guards_give_unasked :
    (∃ guard, Validated (DomainGuard.validate Sample.situation) (.of "bank")
        [(.mustNotExist, some ⟨.domainAlreadyExists, "bank"⟩)] guard ∧
      guard.domain = .ok Sample.aliceBank ∧ guard.take = .ok Sample.aliceBank ∧
      evaluate (DomainGuard.validate Sample.situation [.admin Sample.alice]) guard = .ok ()) ∧
    ∃ guard, Validated (AccountGuard.validate Sample.situation)
        (.of "bank" "teller" (some Sample.aliceBank))
        [(.mustNotExist, some ⟨.accountExists, "teller*bank"⟩)] guard ∧
      guard.account = .ok Sample.teller ∧ guard.take = .ok Sample.teller ∧
      evaluate (AccountGuard.validate Sample.situation [.owner Sample.bob]) guard = .ok () := by
  have hdomain := DomainGuard.validate_mustNotExist_of Sample.situation Sample.domain?_aliceBank
  have haccount := AccountGuard.validate_mustNotExist_of Sample.situation (some Sample.aliceBank)
    Sample.account?_teller
  have hname : fullName "bank" "teller" = "teller*bank" := by decide
  rw [hname] at haccount
  constructor
  · refine ⟨_, Validated.refused DomainCheck.mustNotExist .start hdomain, rfl, rfl, ?_⟩
    decide +kernel
  · refine ⟨_, Validated.refused AccountCheck.mustNotExist .start haccount, rfl, rfl, ?_⟩
    decide +kernel

end NameRegistry
