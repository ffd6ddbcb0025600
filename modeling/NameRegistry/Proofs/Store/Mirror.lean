import NameRegistry.Failure
import NameRegistry.Proofs.Store.Lawful
/-!
Updates on the contents of a store. An update of a lawful store mirrors an update of the plain
store if it gives the same result and leaves the contents that the other one leaves. Mirroring
composes, so that operations are compared step by step.
-/
namespace NameRegistry

variable {σ α β : Type} [KeyValueStore σ] [LawfulStore σ]

/-- An outcome of an update of a store, with the contents in place of the store. -/
def withContents : EStateM.Result Failure σ α → EStateM.Result Failure Store α
  | .ok value store => .ok value (contents store)
  | .error failure store => .error failure (contents store)

/-- Whether an update does to the contents of a store what another one does to a plain store. -/
def Mirrors (update : Update σ α) (plain : Update Store α) : Prop :=
  ∀ store, withContents (update store) = plain (contents store)

theorem mirrors_pure (value : α) : Mirrors (σ := σ) (pure value) (pure value) := fun _ => rfl

theorem mirrors_throw (failure : Failure) :
    Mirrors (σ := σ) (α := α) (throw failure) (throw failure) := fun _ => rfl

theorem mirrors_modify {change : σ → σ} {plain : Store → Store}
    (h : ∀ store, contents (change store) = plain (contents store)) :
    Mirrors (modify change) (modify plain) :=
  fun store => congrArg (EStateM.Result.ok ()) (h store)

theorem mirrors_bind {update : Update σ α} {plain : Update Store α} {next : α → Update σ β}
    {plainNext : α → Update Store β} (h : Mirrors update plain)
    (hnext : ∀ value, Mirrors (next value) (plainNext value)) :
    Mirrors (update >>= next) (plain >>= plainNext) := by
  intro store
  change withContents (EStateM.bind update next store) = EStateM.bind plain plainNext _
  have hstore := h store
  unfold EStateM.bind
  cases hupdate : update store with
  | ok value after =>
      rw [hupdate] at hstore
      rw [← hstore]
      exact hnext value after
  | error failure after =>
      rw [hupdate] at hstore
      rw [← hstore]
      rfl

theorem mirrors_discard {update : Update σ α} {plain : Update Store α}
    (h : Mirrors update plain) : Mirrors (discard update) (discard plain) :=
  mirrors_bind h fun _ => mirrors_pure ()

theorem mirrors_get {next : σ → Update σ α} {plainNext : Store → Update Store α}
    (h : ∀ store, Mirrors (next store) (plainNext (contents store))) :
    Mirrors (get >>= next) (get >>= plainNext) := fun store => h store store

theorem mirrors_lift (result : Except Error α) :
    Mirrors (σ := σ) (liftM result) (liftM result) := by
  intro store
  cases result <;> rfl

theorem mirrors_forM {ι : Type} {items : List ι} {update : ι → Update σ Unit}
    {plain : ι → Update Store Unit} (h : ∀ item, Mirrors (update item) (plain item)) :
    Mirrors (items.forM update) (items.forM plain) := by
  induction items with
  | nil => exact mirrors_pure ()
  | cons item rest ih => exact mirrors_bind (h item) fun _ => ih

end NameRegistry
