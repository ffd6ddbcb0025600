import NameRegistry.Bytes
import NameRegistry.OrderedMap
/-!
Key-value stores. A store answers look-ups, takes writes and is visited in ascending order of its
keys below a stem. `Store` is the plain one; a branch over another store is in `Store.Branch`.
-/
namespace NameRegistry

/-- What a key-value store can do. A visit meets the entries whose keys begin with a stem, in
ascending order, until the visitor is done. -/
class KeyValueStore (σ : Type) : Type 1 where
  get? : σ → Bytes → Option Bytes
  set : σ → Bytes → Bytes → σ
  delete : σ → Bytes → σ
  visit {β : Type} : σ → Bytes → (Bytes → Bytes → β → ForInStep β) → β → β

namespace KeyValueStore

def has {σ : Type} [KeyValueStore σ] (store : σ) (key : Bytes) : Bool :=
  (get? store key).isSome

/-- The entries whose keys begin with `stem`, in order. -/
def entriesUnder {σ : Type} [KeyValueStore σ] (store : σ) (stem : Bytes) :
    List (Bytes × Bytes) :=
  (visit store stem (fun key value seen => .yield ((key, value) :: seen)) []).reverse

/-- The keys that begin with `stem`, in order. -/
def keysUnder {σ : Type} [KeyValueStore σ] (store : σ) (stem : Bytes) : List Bytes :=
  (visit store stem (fun key _ seen => .yield (key :: seen)) []).reverse

end KeyValueStore

namespace OrderedMap

/-- Visits entries from the front while their keys begin with `stem` and the visitor goes on. -/
def visitWhile {ν β : Type} (stem : Bytes) (visitor : Bytes → ν → β → ForInStep β) (state : β) :
    List (Bytes × ν) → β
  | [] => state
  | (key, value) :: rest =>
    if stem.isPrefixOf key then
      match visitor key value state with
      | .done state => state
      | .yield state => visitWhile stem visitor state rest
    else state

/-- Visits the entries whose keys begin with `stem`. They stand together, and `stem` itself is the
least key that they can have, so the visit starts there and ends at the first other key. -/
def visit {ν β : Type} (map : OrderedMap Bytes ν) (stem : Bytes)
    (visitor : Bytes → ν → β → ForInStep β) (state : β) : β :=
  visitWhile stem visitor state (map.entries.dropWhile fun entry => entry.1 < stem)

end OrderedMap

/-- The plain store: an ordered map of byte strings. -/
abbrev Store := OrderedMap Bytes Bytes

instance : KeyValueStore Store where
  get? := OrderedMap.get?
  set := OrderedMap.insert
  delete := OrderedMap.erase
  visit := OrderedMap.visit

end NameRegistry
