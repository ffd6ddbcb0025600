import NameRegistry.Proofs.Store.Visit
import NameRegistry.Store.Branch

namespace NameRegistry

/-- A store with an ordered map of contents that it reads and writes through. -/
class LawfulStore (σ : Type) [KeyValueStore σ] where
  contents : σ → Store
  get?_eq (store : σ) (key : Bytes) :
    KeyValueStore.get? store key = (contents store).get? key
  contents_set (store : σ) (key value : Bytes) :
    contents (KeyValueStore.set store key value) = (contents store).insert key value
  contents_delete (store : σ) (key : Bytes) :
    contents (KeyValueStore.delete store key) = (contents store).erase key
  visit_eq {β : Type} (store : σ) (stem : Bytes) (visitor : Bytes → Bytes → β → ForInStep β)
    (state : β) :
    KeyValueStore.visit store stem visitor state = (contents store).visit stem visitor state

export LawfulStore (contents)

instance : LawfulStore Store where
  contents store := store
  get?_eq _ _ := rfl
  contents_set _ _ _ := rfl
  contents_delete _ _ := rfl
  visit_eq _ _ _ _ := rfl

namespace Branch

variable {σ : Type} [KeyValueStore σ] [LawfulStore σ]

theorem get?_applyWrite (store : Store) (write : Bytes × Option Bytes) (key : Bytes) :
    (applyWrite store write).get? key = if key = write.1 then write.2 else store.get? key := by
  obtain ⟨written, _ | value⟩ := write
  · exact OrderedMap.get?_erase store written key
  · exact OrderedMap.get?_insert store written key value

/-- The contents of the base with the buffered writes applied to them. -/
def overlaid (branch : Branch σ) : Store :=
  branch.buffer.entries.foldl applyWrite (contents branch.base)

theorem get?_overlaid (branch : Branch σ) (key : Bytes) :
    branch.overlaid.get? key =
      (branch.buffer.get? key).elim ((contents branch.base).get? key) id :=
  OrderedMap.get?_foldl id get?_applyWrite branch.buffer.ascending _ key

theorem get?_merged (branch : Branch σ) (stem key : Bytes) :
    (branch.merged stem).get? key =
      if stem.isPrefixOf key then branch.overlaid.get? key else none := by
  -- What shows through of the base, before the branch's own writes are laid over it.
  have hinherited (key : Bytes) :
      (KeyValueStore.visit branch.base stem
        (fun key value (seen : Store) => .yield (seen.insert key value)) ∅).get? key =
        if stem.isPrefixOf key then (contents branch.base).get? key else none := by
    rw [LawfulStore.visit_eq, OrderedMap.visit_yield,
      OrderedMap.get?_foldl some (fun map entry key => by simp)
        ((contents branch.base).ascending.filter _),
      OrderedMap.lookup?_filter (contents branch.base).ascending stem.isPrefixOf]
    by_cases h : stem.isPrefixOf key
    · simp only [h, if_true, OrderedMap.get?_empty]
      change _ = OrderedMap.lookup? key (contents branch.base).entries
      cases OrderedMap.lookup? key (contents branch.base).entries <;> rfl
    · simp [h]
  rw [merged, OrderedMap.visit_yield,
    OrderedMap.get?_foldl id (fun map entry key => get?_applyWrite map entry key)
      (branch.buffer.ascending.filter _),
    OrderedMap.lookup?_filter branch.buffer.ascending stem.isPrefixOf, get?_overlaid, hinherited]
  by_cases h : stem.isPrefixOf key
  · simp only [h, if_true]
    rfl
  · simp [h]

theorem entries_merged (branch : Branch σ) (stem : Bytes) :
    (branch.merged stem).entries =
      branch.overlaid.entries.filter fun entry => stem.isPrefixOf entry.1 := by
  refine OrderedMap.entries_eq_of_mem_iff (branch.merged stem).ascending
    (branch.overlaid.ascending.filter _) fun ⟨key, value⟩ => ?_
  rw [← OrderedMap.get?_eq_some_iff, get?_merged, List.mem_filter,
    ← OrderedMap.get?_eq_some_iff]
  by_cases h : stem.isPrefixOf key <;> simp [h]

theorem overlaid_insert (branch : Branch σ) (key : Bytes) (write : Option Bytes) :
    overlaid { branch with buffer := branch.buffer.insert key write } =
      applyWrite branch.overlaid (key, write) := by
  refine OrderedMap.ext_get? fun key' => ?_
  rw [get?_applyWrite, get?_overlaid, get?_overlaid, OrderedMap.get?_insert]
  by_cases h : key' = key <;> simp [h]

instance : LawfulStore (Branch σ) where
  contents := overlaid
  get?_eq branch key := by
    rw [get?_overlaid, ← LawfulStore.get?_eq]
    cases h : branch.buffer.get? key <;> simp [KeyValueStore.get?, h]
  contents_set branch key value := overlaid_insert branch key (some value)
  contents_delete branch key := overlaid_insert branch key none
  visit_eq branch stem visitor state := by
    rw [OrderedMap.visit_eq_filter, ← entries_merged]
    rfl

theorem contents_commit (branch : Branch σ) : contents branch.commit = contents branch := by
  have hfold (writes : List (Bytes × Option Bytes)) (store : σ) :
      contents (writes.foldl applyWrite store) = writes.foldl applyWrite (contents store) := by
    induction writes generalizing store with
    | nil => rfl
    | cons write rest ih =>
        obtain ⟨key, _ | value⟩ := write
        · rw [List.foldl_cons, ih]
          exact congrArg (rest.foldl applyWrite) (LawfulStore.contents_delete store key)
        · rw [List.foldl_cons, ih]
          exact congrArg (rest.foldl applyWrite) (LawfulStore.contents_set store key value)
  exact hfold branch.buffer.entries branch.base

end Branch

end NameRegistry
