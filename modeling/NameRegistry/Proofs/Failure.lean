import NameRegistry.Failure
import Mathlib.Data.List.Forall2

namespace NameRegistry

variable {ε α β σ : Type}

theorem bind_eq_ok_iff {result : Except ε α} {next : α → Except ε β} {value : β} :
    (result >>= next) = .ok value ↔ ∃ found, result = .ok found ∧ next found = .ok value := by
  cases result with
  | error _ => simp [bind, Except.bind]
  | ok found => simp [bind, Except.bind]

theorem bind_eq_error_iff {result : Except ε α} {next : α → Except ε β} {error : ε} :
    (result >>= next) = .error error ↔
      result = .error error ∨ ∃ found, result = .ok found ∧ next found = .error error := by
  cases result with
  | error _ => simp [bind, Except.bind]
  | ok found => simp [bind, Except.bind]

theorem bind_pure_eq_ok_iff {result : Except ε α} {wrap : α → β} {value : β} :
    (result >>= fun found => pure (wrap found)) = .ok value ↔
      ∃ found, result = .ok found ∧ wrap found = value := by
  cases result with
  | error _ => simp [bind, Except.bind]
  | ok found => simp [bind, Except.bind, pure, Except.pure]

theorem lift_eq_ok_iff {result : Except Error α} {value : α} :
    (liftM result : Except Failure α) = .ok value ↔ result = .ok value := by
  cases result with
  | error _ => exact ⟨nofun, nofun⟩
  | ok _ => exact ⟨fun h => congrArg _ (Except.ok.inj h), fun h => congrArg _ (Except.ok.inj h)⟩

theorem require_eq_ok_iff {condition : Bool} {kind : ErrorKind} {detail : String} :
    require condition kind detail = .ok () ↔ condition = true := by
  cases condition <;> simp [require]

theorem kind_of_require {condition : Bool} {kind : ErrorKind} {detail : String} {error : Error}
    (h : require condition kind detail = .error error) : error.kind = kind := by
  rw [require] at h
  split at h
  · cases h
  · exact Except.error.inj h ▸ rfl

theorem lift_require_eq_ok_iff {question : Except Error Bool} {kind : ErrorKind} {detail : String} :
    (liftM question >>= fun holds => liftM (require holds kind detail) : Except Failure Unit) =
        .ok () ↔ question = .ok true := by
  rw [bind_eq_ok_iff]
  constructor
  · rintro ⟨holds, hquestion, hrequire⟩
    obtain rfl := require_eq_ok_iff.mp (lift_eq_ok_iff.mp hrequire)
    exact lift_eq_ok_iff.mp hquestion
  · intro hquestion
    exact ⟨true, lift_eq_ok_iff.mpr hquestion, rfl⟩

theorem forM_eq_ok_iff {test : α → Except ε Unit} {items : List α} {value : Unit} :
    items.forM test = .ok value ↔ ∀ item ∈ items, test item = .ok () := by
  induction items with
  | nil => exact ⟨fun _ => nofun, fun _ => rfl⟩
  | cons item rest ih =>
      have hsteps : (item :: rest).forM test = (test item >>= fun _ => rest.forM test) := rfl
      rw [hsteps, bind_eq_ok_iff, List.forall_mem_cons, ← ih]
      constructor
      · rintro ⟨_, hitem, hrest⟩
        exact ⟨hitem, hrest⟩
      · rintro ⟨hitem, hrest⟩
        exact ⟨(), hitem, hrest⟩

theorem exists_mapM_eq_ok {κ : Type} {read : α → Except ε β} {items : List α} {given : α → κ}
    {found : β → κ} {passes : β → Prop}
    (h : ∀ item ∈ items, ∃ value, read item = .ok value ∧ found value = given item ∧ passes value) :
    ∃ values, items.mapM read = .ok values ∧ values.map found = items.map given ∧
      ∀ value ∈ values, passes value := by
  induction items with
  | nil => exact ⟨[], rfl, rfl, nofun⟩
  | cons item rest ih =>
      obtain ⟨value, hread, hfound, hpasses⟩ := h item (by simp)
      obtain ⟨values, hvalues, hrest, hall⟩ := ih fun item' hitem => h item' (by simp [hitem])
      refine ⟨value :: values, ?_, ?_, List.forall_mem_cons.mpr ⟨hpasses, hall⟩⟩
      · rw [List.mapM_cons, hread, hvalues]
        rfl
      · rw [List.map_cons, List.map_cons, hfound, hrest]

theorem mapM_eq_ok_map {read : α → Except ε β} {items : List α} {value : α → β}
    (h : ∀ item ∈ items, read item = .ok (value item)) :
    items.mapM read = .ok (items.map value) := by
  induction items with
  | nil => rfl
  | cons item rest ih =>
      rw [List.mapM_cons, h item (by simp), ih fun item' hitem => h item' (by simp [hitem])]
      rfl

theorem mapM_eq_ok_iff_forall₂ {read : α → Except ε β} {items : List α} {values : List β} :
    items.mapM read = .ok values ↔
      List.Forall₂ (fun item value => read item = .ok value) items values := by
  induction items generalizing values with
  | nil =>
      rw [List.mapM_nil, List.forall₂_nil_left_iff]
      exact ⟨fun h => (Except.ok.inj h).symm, fun h => congrArg _ h.symm⟩
  | cons item rest ih =>
      rw [List.mapM_cons, List.forall₂_cons_left_iff, bind_eq_ok_iff]
      constructor
      · rintro ⟨value, hvalue, hrest⟩
        obtain ⟨others, hothers, hvalues⟩ := bind_eq_ok_iff.mp hrest
        exact ⟨value, others, hvalue, ih.mp hothers, (Except.ok.inj hvalues).symm⟩
      · rintro ⟨value, others, hvalue, hothers, rfl⟩
        exact ⟨value, hvalue, bind_eq_ok_iff.mpr ⟨others, ih.mpr hothers, rfl⟩⟩

namespace Update

theorem get_bind (next : σ → Update σ β) (state : σ) :
    (get >>= next) state = next state state := rfl

theorem lift_ok_bind (value : α) (next : α → Update σ β) (state : σ) :
    ((liftM (.ok value : Except Failure α) : Update σ α) >>= next) state = next value state := rfl

theorem evaluate_bind (update : Update σ α) (next : α → Update σ β) (state : σ) :
    evaluate (update >>= next) state =
      match update state with
      | .ok value state => evaluate (next value) state
      | .error failure _ => .error failure := by
  change evaluate (EStateM.bind update next) state = _
  rw [evaluate, EStateM.bind]
  cases update state <;> rfl

theorem evaluate_lift (result : Except Failure α) (state : σ) :
    evaluate (liftM result) state = result := by
  cases result <;> rfl

theorem evaluate_withContext_eq_ok_iff {context : String} {update : Update σ α}
    {next : α → Update σ β} {state : σ} {value : β} :
    evaluate (withContext context update >>= next) state = .ok value ↔
      evaluate (update >>= next) state = .ok value := by
  rw [evaluate_bind, evaluate_bind, withContext]
  rcases update state with _ | ⟨_ | _, _⟩ <;> simp

theorem forM_verdicts {ι : Type} {step : ι → Update σ Unit} {verdict : ι → Except Failure Unit}
    {state : σ} {items : List ι}
    (h : ∀ item ∈ items, step item state = (liftM (verdict item) : Update σ Unit) state) :
    items.forM step state = (liftM (items.forM verdict) : Update σ Unit) state := by
  induction items with
  | nil => rfl
  | cons item rest ih =>
      have hitem := h item (by simp)
      have hrest := ih fun item' hitem' => h item' (by simp [hitem'])
      change EStateM.bind (step item) (fun _ => rest.forM step) state =
        (liftM (verdict item >>= fun _ => rest.forM verdict) : Update σ Unit) state
      rw [EStateM.bind, hitem]
      cases verdict item with
      | error failure => rfl
      | ok _ => exact hrest

end Update

end NameRegistry
