import NameRegistry.Store.Branch
/-!
Branches over branches. A nested store is a plain store with any number of branches upon it; reads
and writes go to the topmost one.
-/
namespace NameRegistry

/-- A plain store with the given number of branches upon it. -/
def Tower : Nat → Type
  | 0 => Store
  | depth + 1 => Branch (Tower depth)

/-- Every tower is a key-value store: a branch over one is one again. -/
instance Tower.keyValueStore : (depth : Nat) → KeyValueStore (Tower depth)
  | 0 => inferInstanceAs (KeyValueStore Store)
  | depth + 1 =>
    let _ := keyValueStore depth
    inferInstanceAs (KeyValueStore (Branch (Tower depth)))

def Tower.ground : {depth : Nat} → Tower depth → Store
  | 0, store => store
  | _ + 1, branch => ground (Branch.base branch)

/-- A plain store with branches upon it. -/
structure Nested where
  depth : Nat
  tower : Tower depth

namespace Nested

/-- A plain store without branches. -/
def ofStore (store : Store) : Nested := ⟨0, store⟩

/-- Opens a branch over the topmost store. -/
def branch (nested : Nested) : Nested := ⟨nested.depth + 1, Branch.fresh nested.tower⟩

/-- The number of writes that the topmost branch holds back. -/
def pending : Nested → Nat
  | ⟨0, _⟩ => 0
  | ⟨_ + 1, top⟩ => Branch.pending top

/-- Commits the topmost branch to the store below. -/
def commit : Nested → Nested
  | ⟨0, store⟩ => ⟨0, store⟩
  | ⟨depth + 1, top⟩ => ⟨depth, Branch.commit (σ := Tower depth) top⟩

def discard : Nested → Nested
  | ⟨0, store⟩ => ⟨0, store⟩
  | ⟨depth + 1, top⟩ => ⟨depth, Branch.base top⟩

/-- The plain store at the bottom. -/
def ground (nested : Nested) : Store := nested.tower.ground

instance : KeyValueStore Nested where
  get? nested := KeyValueStore.get? nested.tower
  set nested key value := { nested with tower := KeyValueStore.set nested.tower key value }
  delete nested key := { nested with tower := KeyValueStore.delete nested.tower key }
  visit nested := KeyValueStore.visit nested.tower

end Nested

end NameRegistry
