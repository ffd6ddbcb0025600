import NameRegistry.Proofs.Key.Slot
import NameRegistry.Proofs.Store.Lawful
/-!
Stores by their slots. A layout says what stands in each sound slot of a store, and that nothing
stands anywhere else; it determines the store. Each write moves a store from one layout to another.
-/
namespace NameRegistry

/-- Whether a store holds in its sound slots what is given for them, and nothing elsewhere. -/
structure Layout (store : Store) (slots : Slot → Option Bytes) : Prop where
  at_slot (slot : Slot) : slot.Sound → store.get? slot.key = slots slot
  elsewhere {key : Bytes} : (∀ slot : Slot, slot.Sound → slot.key ≠ key) → store.get? key = none

/-- The slots with one value, or nothing, written to the given places. -/
@[grind =]
def write (slots : Slot → Option Bytes) (places : List Slot) (value : Option Bytes) :
    Slot → Option Bytes :=
  fun slot => if slot ∈ places then value else slots slot

theorem write_nil (slots : Slot → Option Bytes) (value : Option Bytes) :
    write slots [] value = slots := by
  funext slot
  simp [write]

theorem write_cons (slots : Slot → Option Bytes) (place : Slot) (places : List Slot)
    (value : Option Bytes) :
    write (write slots [place] value) places value = write slots (place :: places) value := by
  funext slot
  by_cases h : slot ∈ places <;> simp [write, h]

namespace Layout

variable {store : Store} {slots : Slot → Option Bytes}

theorem exists_slot_of_ne {after : Store} {slots' : Slot → Option Bytes} (h : Layout store slots)
    (hafter : Layout after slots') {key : Bytes} (hkey : after.get? key ≠ store.get? key) :
    ∃ slot : Slot, slot.Sound ∧ slot.key = key ∧ slots' slot ≠ slots slot := by
  by_cases hslot : ∃ slot : Slot, slot.Sound ∧ slot.key = key
  · obtain ⟨slot, hsound, rfl⟩ := hslot
    rw [h.at_slot slot hsound, hafter.at_slot slot hsound] at hkey
    exact ⟨slot, hsound, rfl, hkey⟩
  · have hnone : ∀ slot : Slot, slot.Sound → slot.key ≠ key :=
      fun slot hsound heq => hslot ⟨slot, hsound, heq⟩
    rw [h.elsewhere hnone, hafter.elsewhere hnone] at hkey
    exact absurd rfl hkey

/-- A layout determines the store. -/
theorem store_eq {store' : Store} (h : Layout store slots) (h' : Layout store' slots) :
    store = store' := by
  refine OrderedMap.ext_get? fun key => Classical.byContradiction fun hne => ?_
  obtain ⟨slot, _, _, hslots⟩ := h'.exists_slot_of_ne h hne
  exact hslots rfl

theorem of_get? {after : Store} {slot : Slot} {value : Option Bytes} (h : Layout store slots)
    (hslot : slot.Sound)
    (hafter : ∀ key, after.get? key = if key = slot.key then value else store.get? key) :
    Layout after (write slots [slot] value) where
  at_slot slot' hslot' := by
    rw [hafter, h.at_slot slot' hslot', write]
    by_cases heq : slot' = slot
    · simp [heq]
    · have hkey : slot'.key ≠ slot.key := fun hkey => heq (Slot.key_inj hslot' hslot hkey)
      simp [heq, hkey]
  elsewhere {key} hkey := by
    rw [hafter, if_neg (fun heq => hkey slot hslot heq.symm), h.elsewhere hkey]

theorem set (h : Layout store slots) (slot : Slot) (hslot : slot.Sound) (value : Bytes) :
    Layout (KeyValueStore.set store slot.key value) (write slots [slot] (some value)) :=
  h.of_get? hslot fun key => OrderedMap.get?_insert store slot.key key value

theorem delete (h : Layout store slots) (slot : Slot) (hslot : slot.Sound) :
    Layout (KeyValueStore.delete store slot.key) (write slots [slot] none) :=
  h.of_get? hslot fun key => OrderedMap.get?_erase store slot.key key

theorem insert {scope : Scope} {object : Bytes} (h : Layout store slots) (slot : Slot)
    (hslot : slot.Sound) (hkey : scope.key object = slot.key) :
    Layout (scope.insert object store) (write slots [slot] (some [])) := by
  rw [Scope.insert, hkey]
  exact h.set slot hslot []

theorem erase {scope : Scope} {object : Bytes} (h : Layout store slots) (slot : Slot)
    (hslot : slot.Sound) (hkey : scope.key object = slot.key) :
    Layout (scope.erase object store).2 (write slots [slot] none) := by
  have hcontains : scope.contains store object = (slots slot).isSome := by
    rw [← h.at_slot slot hslot, Scope.contains, hkey]
    rfl
  rw [Scope.erase, hcontains]
  cases hfound : slots slot with
  | some found =>
      rw [hkey]
      exact h.delete slot hslot
  | none =>
      have hsame : write slots [slot] none = slots := by
        funext slot'
        by_cases heq : slot' = slot
        · simp [write, heq, hfound]
        · simp [write, heq]
      rw [hsame]
      exact h

end Layout

/-- Whether an update succeeds with the given value and leaves a store with the given layout. -/
def Reaches {α : Type} (update : Update Store α) (store : Store) (value : α)
    (slots : Slot → Option Bytes) : Prop :=
  ∃ after, update store = .ok value after ∧ Layout after slots

section Reaches

variable {α β : Type} {store : Store} {value : α} {slots : Slot → Option Bytes}

theorem reaches_pure (h : Layout store slots) : Reaches (pure value) store value slots :=
  ⟨store, rfl, h⟩

theorem reaches_modify {change : Store → Store} (h : Layout (change store) slots) :
    Reaches (modify change) store () slots :=
  ⟨change store, rfl, h⟩

theorem reaches_bind {update : Update Store α} {next : α → Update Store β} {value' : β}
    {slots' : Slot → Option Bytes} (h : Reaches update store value slots)
    (hnext : ∀ after, Layout after slots → Reaches (next value) after value' slots') :
    Reaches (update >>= next) store value' slots' := by
  obtain ⟨after, hupdate, hafter⟩ := h
  obtain ⟨last, hlast, hslots⟩ := hnext after hafter
  refine ⟨last, ?_, hslots⟩
  change EStateM.bind update next store = _
  rw [EStateM.bind, hupdate]
  exact hlast

theorem reaches_get {next : Store → Update Store α}
    (h : Reaches (next store) store value slots) : Reaches (get >>= next) store value slots := h

theorem reaches_lift {result : Except Error β} {found : β} {next : β → Update Store α}
    (hresult : result = .ok found) (h : Reaches (next found) store value slots) :
    Reaches (liftM result >>= next) store value slots := by
  subst hresult
  exact h

theorem reaches_discard {update : Update Store α} (h : Reaches update store value slots) :
    Reaches (discard update) store () slots :=
  reaches_bind h fun _ hafter => reaches_pure hafter

theorem reaches_forM {ι : Type} {items : List ι} {step : ι → Update Store Unit}
    {slotOf : ι → Slot} {written : Option Bytes} (h : Layout store slots)
    (hstep : ∀ item ∈ items, ∀ {before : Store} {slots : Slot → Option Bytes},
      Layout before slots → Reaches (step item) before () (write slots [slotOf item] written)) :
    Reaches (items.forM step) store () (write slots (items.map slotOf) written) := by
  induction items generalizing store slots with
  | nil =>
      rw [List.map_nil, write_nil]
      exact reaches_pure h
  | cons item rest ih =>
      rw [List.map_cons, ← write_cons]
      refine reaches_bind (hstep item List.mem_cons_self h) ?_
      intro after hafter
      exact ih hafter fun item' hitem => hstep item' (List.mem_cons_of_mem _ hitem)

end Reaches

namespace Registry

variable {ι : Type} {store : Store} {slots : Slot → Option Bytes} {items : List ι}
  {scopeOf : ι → Except Error Scope} {slotOf : ι → Slot} {object : Bytes}

theorem reaches_index (h : Layout store slots)
    (hitems : ∀ item ∈ items, (slotOf item).Sound ∧
      ∃ scope, scopeOf item = .ok scope ∧ scope.key object = (slotOf item).key) :
    Reaches (items.forM fun item => index (scopeOf item) object) store ()
      (write slots (items.map slotOf) (some [])) := by
  apply reaches_forM h
  intro item hitem before slots' hbefore
  obtain ⟨hslot, scope, hscope, hkey⟩ := hitems item hitem
  exact reaches_lift hscope (reaches_modify (hbefore.insert (slotOf item) hslot hkey))

theorem reaches_unindex (h : Layout store slots)
    (hitems : ∀ item ∈ items, (slotOf item).Sound ∧
      ∃ scope, scopeOf item = .ok scope ∧ scope.key object = (slotOf item).key) :
    Reaches (items.forM fun item => unindex (scopeOf item) object) store ()
      (write slots (items.map slotOf) none) := by
  apply reaches_forM h
  intro item hitem before slots' hbefore
  obtain ⟨hslot, scope, hscope, hkey⟩ := hitems item hitem
  exact reaches_lift hscope (reaches_modify (hbefore.erase (slotOf item) hslot hkey))

end Registry

end NameRegistry
