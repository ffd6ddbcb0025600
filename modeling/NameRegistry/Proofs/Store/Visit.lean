import NameRegistry.OrderedMap.Lemmas
import NameRegistry.Store.Basic

namespace NameRegistry

namespace OrderedMap

theorem not_lt_of_stem {stem key : Bytes} (h : stem <+: key) : ¬ key < stem := by
  induction stem generalizing key with
  | nil => simp
  | cons byte stem ih =>
      rcases key with _ | ⟨byte', key⟩
      · simp at h
      · obtain ⟨rfl, htail⟩ := List.cons_prefix_cons.mp h
        simpa using ih htail

theorem not_prefix_of_lt {stem key key' : Bytes} (hstem : ¬ key < stem) (hkey : ¬ stem <+: key)
    (hlt : key < key') : ¬ stem <+: key' := by
  induction stem generalizing key key' with
  | nil => simp at hkey
  | cons byte stem ih =>
      rcases key with _ | ⟨byte₁, key⟩
      · exact absurd (List.nil_lt_cons byte stem) hstem
      rcases key' with _ | ⟨byte₂, key'⟩
      · simp at hlt
      intro h
      obtain ⟨rfl, htail⟩ := List.cons_prefix_cons.mp h
      rw [List.cons_lt_cons_iff] at hlt hstem
      -- Either the key falls below the stem at this byte, or both go on behind an equal byte.
      rcases hlt with hlt | ⟨rfl, hlt⟩
      · exact hstem (Or.inl hlt)
      · refine ih (fun h' => hstem (Or.inr ⟨rfl, h'⟩)) (fun h' => hkey ?_) hlt htail
        exact List.cons_prefix_cons.mpr ⟨rfl, h'⟩

variable {ν β : Type}

theorem visitWhile_eq_filter (stem : Bytes) (visitor : Bytes → ν → β → ForInStep β)
    (state : β) {entries : List (Bytes × ν)} (hasc : entries.Pairwise fun a b => a.1 < b.1)
    (hstem : ∀ entry ∈ entries, ¬ entry.1 < stem) :
    visitWhile stem visitor state entries =
      visitWhile [] visitor state (entries.filter fun entry => stem.isPrefixOf entry.1) := by
  induction entries generalizing state with
  | nil => rfl
  | cons entry rest ih =>
      obtain ⟨key, value⟩ := entry
      obtain ⟨hfirst, hrest⟩ := List.pairwise_cons.mp hasc
      by_cases hkey : stem <+: key
      · have ih' := fun state => ih state hrest fun entry hentry => hstem entry (by simp [hentry])
        simp [visitWhile, hkey, ih']
      · have hnone : ∀ entry ∈ rest, ¬ stem <+: entry.1 := fun entry hentry =>
          not_prefix_of_lt (hstem (key, value) (by simp)) hkey (hfirst entry hentry)
        have hfilter : (rest.filter fun entry => stem.isPrefixOf entry.1) = [] := by
          simpa [List.filter_eq_nil_iff] using hnone
        simp [visitWhile, hkey, hfilter]

theorem filter_dropWhile_lt (stem : Bytes) (entries : List (Bytes × ν)) :
    ((entries.dropWhile fun entry => entry.1 < stem).filter
        fun entry => stem.isPrefixOf entry.1) =
      entries.filter fun entry => stem.isPrefixOf entry.1 := by
  induction entries with
  | nil => rfl
  | cons entry rest ih =>
      by_cases hlt : entry.1 < stem
      · have hkey : ¬ stem <+: entry.1 := fun h => not_lt_of_stem h hlt
        simp [hlt, hkey, ih]
      · simp [hlt]

theorem not_lt_of_mem_dropWhile {stem : Bytes} {entries : List (Bytes × ν)}
    (hasc : entries.Pairwise fun a b => a.1 < b.1) {entry : Bytes × ν}
    (h : entry ∈ entries.dropWhile fun entry => entry.1 < stem) : ¬ entry.1 < stem := by
  induction entries with
  | nil => simp at h
  | cons first rest ih =>
      obtain ⟨hfirst, hrest⟩ := List.pairwise_cons.mp hasc
      by_cases hlt : first.1 < stem
      · rw [List.dropWhile_cons_of_pos (by simpa using hlt)] at h
        exact ih hrest h
      · rw [List.dropWhile_cons_of_neg (by simpa using hlt)] at h
        rcases List.mem_cons.mp h with rfl | h
        · exact hlt
        · exact fun hentry => hlt (Std.lt_trans (hfirst entry h) hentry)

theorem visit_eq_filter (map : OrderedMap Bytes ν) (stem : Bytes)
    (visitor : Bytes → ν → β → ForInStep β) (state : β) :
    map.visit stem visitor state =
      visitWhile [] visitor state
        (map.entries.filter fun entry => stem.isPrefixOf entry.1) := by
  rw [visit, visitWhile_eq_filter stem visitor state
    (map.ascending.sublist (List.dropWhile_sublist _))
    (fun _ h => not_lt_of_mem_dropWhile map.ascending h), filter_dropWhile_lt]

theorem visit_congr {map map' : OrderedMap Bytes ν} {stem : Bytes}
    (h : ∀ rest, map.get? (stem ++ rest) = map'.get? (stem ++ rest))
    (visitor : Bytes → ν → β → ForInStep β) (state : β) :
    map.visit stem visitor state = map'.visit stem visitor state := by
  rw [visit_eq_filter, visit_eq_filter]
  congr 1
  refine entries_eq_of_mem_iff (map.ascending.filter _) (map'.ascending.filter _) ?_
  rintro ⟨key, value⟩
  simp only [List.mem_filter, ← get?_eq_some_iff, List.isPrefixOf_iff_prefix]
  refine and_congr_left ?_
  rintro ⟨rest, rfl⟩
  rw [h rest]

theorem visitWhile_yield (update : Bytes → ν → β → β) (state : β) (entries : List (Bytes × ν)) :
    visitWhile [] (fun key value state => .yield (update key value state)) state entries =
      entries.foldl (fun state entry => update entry.1 entry.2 state) state := by
  induction entries generalizing state with
  | nil => rfl
  | cons entry rest ih => simp [visitWhile, ih]

theorem visit_yield (map : OrderedMap Bytes ν) (stem : Bytes) (update : Bytes → ν → β → β)
    (state : β) :
    map.visit stem (fun key value state => .yield (update key value state)) state =
      (map.entries.filter fun entry => stem.isPrefixOf entry.1).foldl
        (fun state entry => update entry.1 entry.2 state) state := by
  rw [visit_eq_filter, visitWhile_yield]

end OrderedMap

namespace KeyValueStore

theorem entriesUnder_eq_filter (store : Store) (stem : Bytes) :
    entriesUnder store stem = store.entries.filter fun entry => stem.isPrefixOf entry.1 := by
  have hvisit : visit store stem (fun key value seen => .yield ((key, value) :: seen)) [] = _ :=
    OrderedMap.visit_yield store stem (fun key value seen => (key, value) :: seen) []
  rw [entriesUnder, hvisit, List.foldl_flip_cons_eq_append, List.append_nil, List.reverse_reverse]
  exact List.map_id _

theorem mem_entriesUnder {store : Store} {stem key value : Bytes} :
    (key, value) ∈ entriesUnder store stem ↔ stem <+: key ∧ store.get? key = some value := by
  rw [entriesUnder_eq_filter, List.mem_filter, List.isPrefixOf_iff_prefix,
    OrderedMap.get?_eq_some_iff, and_comm]

theorem nodup_entriesUnder (store : Store) (stem : Bytes) :
    ((entriesUnder store stem).map Prod.fst).Nodup := by
  rw [entriesUnder_eq_filter]
  refine List.pairwise_map.mpr ((store.ascending.filter _).imp ?_)
  intro entry entry' hlt heq
  rw [heq] at hlt
  exact Std.lt_irrefl hlt

end KeyValueStore

end NameRegistry
