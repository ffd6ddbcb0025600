import NameRegistry.Proofs.Store.Visit

namespace NameRegistry

namespace OrderedMap

variable {ν β : Type}

/-- Whether a visitor meets the given entries one after another, from a state on, and what it ends
with: it goes on behind each of them, or is done at the last one. -/
inductive Meets (visitor : Bytes → ν → β → ForInStep β) :
    β → List (Bytes × ν) → ForInStep β → Prop
  | nothing (state : β) : Meets visitor state [] (.yield state)
  | last {key : Bytes} {value : ν} {state after : β} :
      visitor key value state = .done after → Meets visitor state [(key, value)] (.done after)
  | next {key : Bytes} {value : ν} {state between : β} {rest : List (Bytes × ν)}
      {ending : ForInStep β} :
      visitor key value state = .yield between → Meets visitor between rest ending →
        Meets visitor state ((key, value) :: rest) ending

/-- A visitor that notes the entries that it is shown. -/
def noting (visitor : Bytes → ν → β → ForInStep β) (key : Bytes) (value : ν)
    (noted : List (Bytes × ν) × β) : ForInStep (List (Bytes × ν) × β) :=
  match visitor key value noted.2 with
  | .done state => .done (noted.1 ++ [(key, value)], state)
  | .yield state => .yield (noted.1 ++ [(key, value)], state)

theorem meets_visitWhile (visitor : Bytes → ν → β → ForInStep β) (seen : List (Bytes × ν))
    (state : β) (entries : List (Bytes × ν)) :
    ∃ met unmet ending, entries = met ++ unmet ∧ Meets visitor state met ending ∧
      (unmet = [] ∨ ∃ after, ending = .done after) ∧
      visitWhile [] (noting visitor) (seen, state) entries = (seen ++ met, ending.value) ∧
      visitWhile [] visitor state entries = ending.value := by
  induction entries generalizing seen state with
  | nil => exact ⟨[], [], .yield state, rfl, .nothing state, .inl rfl, by simp [visitWhile], rfl⟩
  | cons entry rest ih =>
      obtain ⟨key, value⟩ := entry
      cases hvisitor : visitor key value state with
      | done after =>
          refine ⟨[(key, value)], rest, .done after, rfl, .last hvisitor, .inr ⟨after, rfl⟩, ?_, ?_⟩
          · simp [visitWhile, noting, hvisitor]
          · simp [visitWhile, hvisitor]
      | yield between =>
          obtain ⟨met, unmet, ending, rfl, hmeets, hends, hnoted, hstate⟩ :=
            ih (seen ++ [(key, value)]) between
          refine ⟨(key, value) :: met, unmet, ending, rfl, .next hvisitor hmeets, hends, ?_, ?_⟩
          · simpa [visitWhile, noting, hvisitor] using hnoted
          · simpa [visitWhile, hvisitor] using hstate

end OrderedMap

open OrderedMap

/-- Whatever the store and the stem are, a visitor with a state of its own is shown the entries
whose keys begin with the stem and no others, each once and in ascending order of the keys: all of
them, or those up to and including the first at which it is done. -/
theorem OrderedMap.visit_exact {β : Type} (store : Store) (stem : Bytes)
    (visitor : Bytes → Bytes → β → ForInStep β) (state : β) :
    ∃ met unmet ending,
      (met ++ unmet).Pairwise (fun entry entry' => entry.1 < entry'.1) ∧
      (∀ key value, (key, value) ∈ met ++ unmet ↔
        stem <+: key ∧ KeyValueStore.get? store key = some value) ∧
      Meets visitor state met ending ∧ (unmet = [] ∨ ∃ after, ending = .done after) ∧
      KeyValueStore.visit store stem (noting visitor) ([], state) = (met, ending.value) ∧
      KeyValueStore.visit store stem visitor state = ending.value := by
  obtain ⟨met, unmet, ending, hentries, hmeets, hends, hnoted, hstate⟩ :=
    meets_visitWhile visitor [] state
      (store.entries.filter fun entry => stem.isPrefixOf entry.1)
  refine ⟨met, unmet, ending, ?_, fun key value => ?_, hmeets, hends, ?_, ?_⟩
  · rw [← hentries]
    exact store.ascending.filter _
  · rw [← hentries, ← KeyValueStore.entriesUnder_eq_filter]
    exact KeyValueStore.mem_entriesUnder
  · exact (visit_eq_filter store stem _ _).trans hnoted
  · exact (visit_eq_filter store stem _ _).trans hstate

/-- Below a stem of the greatest byte, a visitor that takes two keys is not shown the third, nor the
keys on either side. -/
example :
    let store : Store := .ofList [([255], []), ([254, 255], []), ([255, 255, 0], []),
      ([], []), ([255, 255], []), ([255, 255, 1], [])]
    KeyValueStore.visit store [255, 255]
      (fun key _ seen => if seen.length < 1 then .yield (key :: seen) else .done (key :: seen)) [] =
        [[255, 255, 0], [255, 255]] := by
  decide +kernel

end NameRegistry
