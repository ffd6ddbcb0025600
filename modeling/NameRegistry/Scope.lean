import NameRegistry.Failure
import NameRegistry.Key.Layout
import NameRegistry.Store.Basic
/-!
Scopes of an index. A scope holds the objects that go with one subject; each is an entry of the
store with an empty value.
-/
namespace NameRegistry

/-- The part of an index that belongs to one subject. -/
structure Scope where
  stem : Bytes
  deriving DecidableEq, Repr

namespace Scope

/-- The scope of a subject, given as bytes. -/
def ofBytes (index subject : Bytes) : Scope := ⟨index ++ subject⟩

/-- The scope of an owner. Nothing is to be indexed under the empty address. -/
def ofAddress (index : Bytes) (address : Address) : Except Fault Scope :=
  if address.isEmpty then .error .emptyOwnerIndexed else .ok (ofBytes index address.bytes)

def ofText (index : Bytes) (subject : String) : Scope := ofBytes index (Utf8.encode subject)

/-- The key of an object's entry. -/
def key (scope : Scope) (object : Bytes) : Bytes := scope.stem ++ object

variable {σ : Type} [KeyValueStore σ]

def insert (scope : Scope) (object : Bytes) (store : σ) : σ :=
  KeyValueStore.set store (scope.key object) []

def contains (scope : Scope) (store : σ) (object : Bytes) : Bool :=
  KeyValueStore.has store (scope.key object)

/-- Takes an object out of the scope; tells whether it was there. -/
def erase (scope : Scope) (object : Bytes) (store : σ) : Bool × σ :=
  if scope.contains store object then (true, KeyValueStore.delete store (scope.key object))
  else (false, store)

/-- Visits the objects of the scope in order. -/
def visit {β : Type} (scope : Scope) (store : σ) (visitor : Bytes → β → ForInStep β)
    (state : β) : β :=
  KeyValueStore.visit store scope.stem
    (fun key _ state => visitor (key.drop scope.stem.length) state) state

/-- The objects of the scope, in order. -/
def objects (scope : Scope) (store : σ) : List Bytes :=
  (scope.visit store (fun object seen => .yield (object :: seen)) []).reverse

end Scope

end NameRegistry
