import NameRegistry.Proofs.Delivery.Contents

namespace NameRegistry

/-- An outcome with the contents in place of the store. -/
def Outcome.onContents {σ : Type} [KeyValueStore σ] [LawfulStore σ] (outcome : Outcome σ) :
    Outcome Store :=
  ⟨outcome.result, contents outcome.store, outcome.charges⟩

namespace Environment

section Lawful

variable {σ : Type} [KeyValueStore σ] [LawfulStore σ]

theorem onContents_dispatch (environment : Environment) (context : Context) (message : Message)
    (store : σ) :
    (environment.dispatch context message store).onContents =
      environment.dispatch context message (contents store) := by
  have hdecision : Decision.onMessage (environment.situation context (contents store)) message =
      Decision.onMessage (environment.situation context store) message :=
    Decision.onMessage_onContents (environment.situation context store) message
  rw [dispatch, dispatch, hdecision]
  cases Decision.onMessage (environment.situation context store) message with
  | error failure => rfl
  | ok change =>
      obtain ⟨_ | _, charges⟩ := environment.charge context message
      · rfl
      · have hchange := Change.mirrors_apply change store
        dsimp only
        rw [← hchange]
        cases change.apply store <;> rfl

end Lawful

variable (environment : Environment) (context : Context) (message : Message) (store : Store)

theorem dispatch_branch :
    (environment.dispatch context message (Branch.fresh store)).onContents =
      environment.dispatch context message store :=
  environment.onContents_dispatch context message (Branch.fresh store)

theorem result_deliver :
    (environment.deliver context message store).result =
      (environment.dispatch context message store).result := by
  rw [← dispatch_branch, deliver]
  split <;> rfl

theorem charges_deliver :
    (environment.deliver context message store).charges =
      (environment.dispatch context message store).charges := by
  rw [← dispatch_branch, deliver]
  split <;> rfl

theorem store_deliver_of_ok
    (h : (environment.dispatch context message store).result = .ok ()) :
    (environment.deliver context message store).store =
      (environment.dispatch context message store).store := by
  rw [← dispatch_branch] at h ⊢
  rw [deliver]
  split
  · exact Branch.contents_commit (σ := Store) _
  · rename_i failure hfailure
    exact absurd (h.symm.trans hfailure) (by simp)

theorem store_deliver_of_error
    (h : (environment.dispatch context message store).result ≠ .ok ()) :
    (environment.deliver context message store).store = store := by
  rw [← dispatch_branch] at h
  rw [deliver]
  split
  · rename_i hok
    exact absurd hok h
  · rfl

/-- On every store, delivery ends as `dispatch` on the store itself does, with the same fees asked
for. It leaves the store that `dispatch` leaves if the message goes through, and the store that it
was given if the message fails. -/
theorem deliver_eq_dispatch_or_nothing :
    environment.deliver context message store =
      match (environment.dispatch context message store).result with
      | .ok () => environment.dispatch context message store
      | .error _ => { environment.dispatch context message store with store := store } := by
  have hresult := environment.result_deliver context message store
  have hcharges := environment.charges_deliver context message store
  have hok := environment.store_deliver_of_ok context message store
  have herror := environment.store_deliver_of_error context message store
  generalize environment.deliver context message store = delivered at *
  generalize environment.dispatch context message store = dispatched at *
  obtain ⟨result, after, charges⟩ := delivered
  obtain ⟨result', after', charges'⟩ := dispatched
  obtain rfl : result = result' := hresult
  obtain rfl : charges = charges' := hcharges
  cases result with
  | ok _ =>
      obtain rfl : after = after' := hok rfl
      rfl
  | error failure =>
      obtain rfl : after = store := herror (by simp)
      rfl

end Environment

end NameRegistry
