import NameRegistry.Proofs.Registry.Contents
import NameRegistry.Proofs.Registry.Scopes

namespace NameRegistry

theorem Packed.prefix_iff_eq {components components' : List Bytes} {packed packed' : Bytes}
    (h : pack components = .ok packed) (h' : pack components' = .ok packed')
    (hlength : components.length = components'.length) :
    packed <+: packed' ↔ components = components' := by
  constructor
  · rintro ⟨rest, hrest⟩
    obtain ⟨hpackable, rfl⟩ := pack_eq_ok_iff.mp h
    obtain ⟨hpackable', rfl⟩ := pack_eq_ok_iff.mp h'
    rw [← List.append_nil (joined components')] at hrest
    exact (joined_append_inj hpackable hpackable' hlength hrest).1
  · rintro rfl
    obtain rfl := Except.ok.inj (h.symm.trans h')
    exact List.prefix_refl packed

theorem Index.tag_injective {index index' : Index} (h : index.tag = index'.tag) :
    index = index' := by
  cases index <;> cases index' <;> simp [Index.tag] at h ⊢

namespace Scope

/-- Two scopes for different subjects of one index, or for any subjects of two indexes. -/
inductive Distinct : Scope → Scope → Prop
  | targets {target target' : Target} {scope scope' : Scope} (hne : target ≠ target')
      (h : Registry.accountsAt target = .ok scope) (h' : Registry.accountsAt target' = .ok scope') :
      Distinct scope scope'
  | certificates {certificate certificate' : Bytes} {scope scope' : Scope}
      (hne : certificate ≠ certificate') (h : Registry.accountsWith certificate = .ok scope)
      (h' : Registry.accountsWith certificate' = .ok scope') : Distinct scope scope'
  | addresses {index : Bytes} {address address' : Address} {scope scope' : Scope}
      (hne : address ≠ address') (h : ofAddress index address = .ok scope)
      (h' : ofAddress index address' = .ok scope') : Distinct scope scope'
  | indexes {index index' : Index} (hne : index ≠ index') (subject subject' : Bytes) :
      Distinct (ofBytes (Key.index index.tag) subject) (ofBytes (Key.index index'.tag) subject')

theorem eq_of_ofAddress {index : Bytes} {address : Address} {scope : Scope}
    (h : ofAddress index address = .ok scope) : scope = ofBytes index address.bytes := by
  rw [ofAddress] at h
  split at h
  · cases h
  · exact (Except.ok.inj h).symm

theorem key_ofBytes (index subject object : Bytes) :
    (ofBytes index subject).key object = index ++ (subject ++ object) :=
  List.append_assoc index subject object

/-- Whether two scopes have no key in common. -/
def Apart (scope scope' : Scope) : Prop :=
  ∀ object object', scope.key object ≠ scope'.key object'

theorem Distinct.apart {scope scope' : Scope} (h : scope.Distinct scope') :
    scope.Apart scope' := by
  -- Packed subjects and addresses can be told from the object behind them, whatever it holds; the
  -- keys of different indexes differ before that, in the byte of the index.
  intro object object' hkey
  cases h with
  | targets hne h h' =>
      obtain ⟨hpackable, rfl⟩ := Registry.accountsAt_eq_ok_iff.mp h
      obtain ⟨hpackable', rfl⟩ := Registry.accountsAt_eq_ok_iff.mp h'
      rw [key_ofBytes, key_ofBytes, List.append_cancel_left_eq] at hkey
      exact hne (Slot.targetSubject_append_inj hpackable hpackable' hkey).1
  | certificates hne h h' =>
      obtain ⟨hpackable, rfl⟩ := Registry.accountsWith_eq_ok_iff.mp h
      obtain ⟨hpackable', rfl⟩ := Registry.accountsWith_eq_ok_iff.mp h'
      rw [key_ofBytes, key_ofBytes, List.append_cancel_left_eq] at hkey
      exact hne (Slot.certificate_append_inj hpackable hpackable' hkey).1
  | addresses hne h h' =>
      obtain rfl := eq_of_ofAddress h
      obtain rfl := eq_of_ofAddress h'
      rw [key_ofBytes, key_ofBytes, List.append_cancel_left_eq] at hkey
      exact hne (Slot.owner_append_inj hkey).1
  | indexes hne subject subject' =>
      rw [key_ofBytes, key_ofBytes] at hkey
      exact hne (Index.tag_injective (List.cons.inj (List.cons.inj hkey).2).1)

section Answers

variable {σ : Type} [KeyValueStore σ]

/-- Whether a scope answers on one store as on another. -/
structure AnswersAlike (scope : Scope) (store store' : σ) : Prop where
  contains (object : Bytes) : scope.contains store object = scope.contains store' object
  objects : scope.objects store = scope.objects store'
  visit {β : Type} (visitor : Bytes → β → ForInStep β) (state : β) :
    scope.visit store visitor state = scope.visit store' visitor state

/-- Whether a scope is a set of objects, from which objects are taken and to which they are added,
and which is listed and visited in order. -/
structure IsSet (scope : Scope) (store : σ) : Prop where
  ascending : (scope.objects store).Pairwise (· < ·)
  contains_iff (object : Bytes) : scope.contains store object = true ↔ object ∈ scope.objects store
  visit_eq {β : Type} (visitor : Bytes → β → ForInStep β) (state : β) :
    scope.visit store visitor state =
      Id.run (forIn (scope.objects store) state fun object state => pure (visitor object state))
  mem_insert (object object' : Bytes) :
    object' ∈ scope.objects (scope.insert object store) ↔
      object' = object ∨ object' ∈ scope.objects store
  mem_erase (object object' : Bytes) :
    object' ∈ scope.objects (scope.erase object store).2 ↔
      object' ≠ object ∧ object' ∈ scope.objects store
  erased (object : Bytes) : (scope.erase object store).1 = scope.contains store object

variable [LawfulStore σ]

theorem get?_insert (scope : Scope) (object : Bytes) (store : σ) (key : Bytes) :
    KeyValueStore.get? (scope.insert object store) key =
      if key = scope.key object then some [] else KeyValueStore.get? store key := by
  rw [LawfulStore.get?_eq, LawfulStore.get?_eq store, contents_insert]
  exact OrderedMap.get?_insert _ _ _ _

theorem get?_erase (scope : Scope) (object : Bytes) (store : σ) (key : Bytes) :
    KeyValueStore.get? (scope.erase object store).2 key =
      if key = scope.key object then none else KeyValueStore.get? store key := by
  rw [erase]
  split
  · rw [LawfulStore.get?_eq, LawfulStore.get?_eq store, LawfulStore.contents_delete]
    exact OrderedMap.get?_erase _ _ _
  · next habsent =>
      split
      · next heq =>
          rw [heq]
          exact Option.not_isSome_iff_eq_none.mp habsent
      · rfl

theorem contains_insert (scope : Scope) (object : Bytes) (store : σ) (object' : Bytes) :
    scope.contains (scope.insert object store) object' = true ↔
      object' = object ∨ scope.contains store object' = true := by
  rw [contains, contains, KeyValueStore.has, KeyValueStore.has, get?_insert]
  by_cases heq : object' = object <;> simp [key, heq]

theorem contains_erase (scope : Scope) (object : Bytes) (store : σ) (object' : Bytes) :
    scope.contains (scope.erase object store).2 object' = true ↔
      object' ≠ object ∧ scope.contains store object' = true := by
  rw [contains, contains, KeyValueStore.has, KeyValueStore.has, get?_erase]
  by_cases heq : object' = object <;> simp [key, heq]

theorem objects_contents (scope : Scope) (store : σ) :
    scope.objects (contents store) = scope.objects store :=
  congrArg List.reverse (LawfulStore.visit_eq store _ _ _).symm

theorem answersAlike_of_get? {scope : Scope} {store store' : σ}
    (h : ∀ object, KeyValueStore.get? store (scope.key object) =
      KeyValueStore.get? store' (scope.key object)) : scope.AnswersAlike store store' := by
  have hvisit {β : Type} (visitor : Bytes → β → ForInStep β) (state : β) :
      scope.visit store visitor state = scope.visit store' visitor state := by
    rw [visit, visit, LawfulStore.visit_eq, LawfulStore.visit_eq store']
    refine OrderedMap.visit_congr (fun rest => ?_) _ state
    rw [← LawfulStore.get?_eq, ← LawfulStore.get?_eq]
    exact h rest
  exact ⟨fun object => congrArg Option.isSome (h object), congrArg List.reverse (hvisit _ _),
    hvisit⟩

theorem mem_objects {scope : Scope} {store : σ} {object : Bytes} :
    object ∈ scope.objects store ↔ scope.contains store object = true := by
  rw [← objects_contents, objects_eq, KeyValueStore.mem_restsUnder, contains, KeyValueStore.has,
    LawfulStore.get?_eq, Option.isSome_iff_exists]
  simp only [OrderedMap.get?_eq_some_iff]
  rfl

theorem visit_eq_forIn (scope : Scope) (store : σ) {β : Type}
    (visitor : Bytes → β → ForInStep β) (state : β) :
    scope.visit store visitor state =
      Id.run (forIn (scope.objects store) state fun object state =>
        pure (visitor object state)) := by
  rw [← objects_contents, objects_eq, KeyValueStore.restsUnder,
    KeyValueStore.entriesUnder_eq_filter, visit, LawfulStore.visit_eq, OrderedMap.visit_eq_filter]
  generalize ((contents store).entries.filter _) = entries
  induction entries generalizing state with
  | nil => rfl
  | cons entry rest ih =>
      rw [OrderedMap.visitWhile, if_pos (by simp), List.map_cons, List.forIn_cons]
      cases visitor (entry.1.drop scope.stem.length) state with
      | done state => rfl
      | yield state => exact ih state

theorem isSet (scope : Scope) (store : σ) : scope.IsSet store where
  ascending := by
    rw [← objects_contents, objects_eq]
    exact KeyValueStore.pairwise_restsUnder _ _
  contains_iff object := mem_objects.symm
  visit_eq := scope.visit_eq_forIn store
  mem_insert object object' := by
    rw [mem_objects, mem_objects, contains_insert]
  mem_erase object object' := by
    rw [mem_objects, mem_objects, contains_erase]
  erased object := by
    rw [erase]
    cases scope.contains store object <;> rfl

theorem Apart.answersAlike {scope scope' : Scope} (h : scope.Apart scope') (object : Bytes)
    (store : σ) :
    scope'.AnswersAlike (scope.insert object store) store ∧
      scope'.AnswersAlike (scope.erase object store).2 store := by
  have hne (object' : Bytes) := (h object object').symm
  constructor
  · apply answersAlike_of_get?
    intro object'
    rw [get?_insert, if_neg (hne object')]
  · apply answersAlike_of_get?
    intro object'
    rw [get?_erase, if_neg (hne object')]

/-- Packed keys of one number of components do not begin with one another. Whatever objects are put
into a scope of the registry or taken out of it, on any store, no scope of another subject or
another index answers otherwise than before; and in the scope itself the objects are a set, listed
in ascending order, that an object is added to or taken from. -/
theorem scopes_isolated (store : σ) :
    (∀ {components components' : List Bytes} {packed packed' : Bytes},
      Packed.pack components = .ok packed → Packed.pack components' = .ok packed' →
      components.length = components'.length →
      (packed <+: packed' ↔ components = components')) ∧
    (∀ {scope scope' : Scope}, scope.Distinct scope' → ∀ object,
      scope'.AnswersAlike (scope.insert object store) store ∧
        scope'.AnswersAlike (scope.erase object store).2 store) ∧
    ∀ scope : Scope, scope.IsSet store :=
  ⟨Packed.prefix_iff_eq, fun h object => h.apart.answersAlike object store,
    fun scope => scope.isSet store⟩

/-- What is found by one certificate is still found when it is no longer found by another one that
begins with the first. -/
theorem scopes_isolated_longer_certificate :
    let shorter : Scope := ⟨[2, 4, 1, 1]⟩
    let longer : Scope := ⟨[2, 4, 2, 1, 2]⟩
    let store : Store := longer.insert [7] (shorter.insert [7] ∅)
    Registry.accountsWith [1] = .ok shorter ∧ Registry.accountsWith [1, 2] = .ok longer ∧
      ¬ [1, 1] <+: ([2, 1, 2] : Bytes) ∧
      shorter.objects (longer.erase [7] store).2 = [[7]] ∧
      longer.objects (longer.erase [7] store).2 = [] := by
  intro shorter longer store
  have hshorter : Registry.accountsWith [1] = .ok shorter := rfl
  have hlonger : Registry.accountsWith [1, 2] = .ok longer := rfl
  have hpacked : Packed.pack [[1]] = .ok [1, 1] := rfl
  have hpacked' : Packed.pack [[1, 2]] = .ok [2, 1, 2] := rfl
  have hdistinct : longer.Distinct shorter := .certificates (by decide) hlonger hshorter
  obtain ⟨hbegins, hapart, -⟩ := scopes_isolated store
  refine ⟨hshorter, hlonger, ?_, (hapart hdistinct [7]).2.objects, rfl⟩
  exact (hbegins hpacked hpacked' rfl).not.mpr (by decide)

end Answers

end Scope

end NameRegistry
