import NameRegistry.Store.Basic
/-!
A branch buffers writes over another store. Reads see the buffer first; nothing reaches the base
until the branch is committed, and a branch that is dropped leaves no trace.
-/
namespace NameRegistry

/-- A store with buffered writes over it; a key buffered as `none` is deleted. -/
structure Branch (σ : Type) where
  base : σ
  buffer : OrderedMap Bytes (Option Bytes)

namespace Branch

/-- A branch without writes. -/
def fresh {σ : Type} (base : σ) : Branch σ := ⟨base, ∅⟩

/-- The number of buffered writes. -/
def pending {σ : Type} (branch : Branch σ) : Nat := branch.buffer.size

/-- Applies one buffered write. -/
def applyWrite {σ : Type} [KeyValueStore σ] (store : σ) : Bytes × Option Bytes → σ
  | (key, some value) => KeyValueStore.set store key value
  | (key, none) => KeyValueStore.delete store key

/-- The base with every buffered write applied to it, in order of the keys. -/
def commit {σ : Type} [KeyValueStore σ] (branch : Branch σ) : σ :=
  branch.buffer.entries.foldl applyWrite branch.base

/-- What the branch holds under `stem`: the base's entries, overlaid with the buffered writes. -/
def merged {σ : Type} [KeyValueStore σ] (branch : Branch σ) (stem : Bytes) : Store :=
  let inherited := KeyValueStore.visit branch.base stem
    (fun key value (seen : Store) => .yield (seen.insert key value)) ∅
  branch.buffer.visit stem (fun key write seen => .yield (applyWrite seen (key, write))) inherited

instance {σ : Type} [KeyValueStore σ] : KeyValueStore (Branch σ) where
  get? branch key :=
    match branch.buffer.get? key with
    | some write => write
    | none => KeyValueStore.get? branch.base key
  set branch key value := { branch with buffer := branch.buffer.insert key (some value) }
  delete branch key := { branch with buffer := branch.buffer.insert key none }
  visit branch stem visitor state :=
    OrderedMap.visitWhile [] visitor state (branch.merged stem).entries

end Branch

end NameRegistry
