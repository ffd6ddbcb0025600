import NameRegistry.Proofs.Store.Lawful
import NameRegistry.Store.Nested
/-!
Branches over branches against one plain map. Whatever is read, written, branched, committed and
discarded, a nested store answers as a plain map does that takes every write at once and goes back,
when a branch is discarded, to what it was when that branch was opened (`Nested.transparent`).
-/
namespace NameRegistry

/-- A store on which branches can be opened, committed and discarded. -/
class BranchingStore (σ : Type) extends KeyValueStore σ where
  branch : σ → σ
  commit : σ → σ
  discard : σ → σ

instance : BranchingStore Nested where
  branch := Nested.branch
  commit := Nested.commit
  discard := Nested.discard

/-- A plain map, and beside it what it was when each of the open branches was opened, the last of
them first. -/
@[ext]
structure Snapshots where
  current : Store
  saved : List Store

namespace Snapshots

def ofStore (store : Store) : Snapshots := ⟨store, []⟩

/-- What the map was when the first of the open branches was opened. -/
def ground (snapshots : Snapshots) : Store := snapshots.saved.getLastD snapshots.current

instance : BranchingStore Snapshots where
  get? snapshots := snapshots.current.get?
  set snapshots key value := { snapshots with current := snapshots.current.insert key value }
  delete snapshots key := { snapshots with current := snapshots.current.erase key }
  visit snapshots := snapshots.current.visit
  branch snapshots := ⟨snapshots.current, snapshots.current :: snapshots.saved⟩
  commit snapshots := ⟨snapshots.current, snapshots.saved.tail⟩
  discard snapshots := ⟨snapshots.saved.headD snapshots.current, snapshots.saved.tail⟩

end Snapshots

/-- What can be asked of a store with branches, and done to it. -/
inductive Operation : Type 1
  | get (key : Bytes)
  | has (key : Bytes)
  | keys (stem : Bytes)
  | visit {β : Type} (stem : Bytes) (visitor : Bytes → Bytes → β → ForInStep β) (state : β)
  | set (key value : Bytes)
  | delete (key : Bytes)
  | branch
  | commit
  | discard

/-- What a store answers to an operation. -/
inductive Answer : Type 1
  | nothing
  | value (found : Option Bytes)
  | present (found : Bool)
  | keys (found : List Bytes)
  | visited {β : Type} (state : β)

namespace Operation

variable {σ : Type} [BranchingStore σ]

def answer (store : σ) : Operation → Answer
  | get key => .value (KeyValueStore.get? store key)
  | has key => .present (KeyValueStore.has store key)
  | keys stem => .keys (KeyValueStore.keysUnder store stem)
  | visit stem visitor state => .visited (KeyValueStore.visit store stem visitor state)
  | _ => .nothing

def apply (store : σ) : Operation → σ
  | set key value => KeyValueStore.set store key value
  | delete key => KeyValueStore.delete store key
  | branch => BranchingStore.branch store
  | commit => BranchingStore.commit store
  | discard => BranchingStore.discard store
  | _ => store

/-- The store behind operations, one after another. -/
def applyAll (store : σ) (operations : List Operation) : σ := operations.foldl apply store

/-- The answers to operations, one after another. -/
def answers (store : σ) : List Operation → List Answer
  | [] => []
  | operation :: rest => operation.answer store :: answers (operation.apply store) rest

end Operation

namespace Tower

instance lawfulStore : (depth : Nat) → LawfulStore (Tower depth)
  | 0 => inferInstanceAs (LawfulStore Store)
  | depth + 1 =>
    let _ := lawfulStore depth
    inferInstanceAs (LawfulStore (Branch (Tower depth)))

/-- What the stores below the branches of a tower hold, the uppermost of them first. -/
def saved : {depth : Nat} → Tower depth → List Store
  | 0, _ => []
  | _ + 1, top => contents (Branch.base top) :: saved (Branch.base top)

theorem saved_set {depth : Nat} (tower : Tower depth) (key value : Bytes) :
    saved (KeyValueStore.set tower key value) = saved tower := by
  cases depth <;> rfl

theorem saved_delete {depth : Nat} (tower : Tower depth) (key : Bytes) :
    saved (KeyValueStore.delete tower key) = saved tower := by
  cases depth <;> rfl

theorem saved_commit {depth : Nat} (top : Branch (Tower depth)) :
    saved top.commit = saved top.base := by
  have hfold (writes : List (Bytes × Option Bytes)) (tower : Tower depth) :
      saved (writes.foldl Branch.applyWrite tower) = saved tower := by
    induction writes generalizing tower with
    | nil => rfl
    | cons write rest ih =>
        obtain ⟨key, _ | value⟩ := write
        · exact (ih _).trans (saved_delete tower key)
        · exact (ih _).trans (saved_set tower key value)
  exact hfold top.buffer.entries top.base

theorem length_saved {depth : Nat} (tower : Tower depth) : (saved tower).length = depth := by
  induction depth with
  | zero => rfl
  | succ depth ih => exact congrArg Nat.succ (ih (Branch.base tower))

theorem ground_eq {depth : Nat} (tower : Tower depth) :
    tower.ground = (saved tower).getLastD (contents tower) := by
  induction depth with
  | zero => rfl
  | succ depth ih =>
      rw [saved, List.getLastD_cons]
      exact ih (Branch.base tower)

end Tower

namespace Nested

/-- The plain map that a nested store stands for. -/
def snapshots (nested : Nested) : Snapshots := ⟨contents nested.tower, nested.tower.saved⟩

theorem snapshots_set (nested : Nested) (key value : Bytes) :
    snapshots (KeyValueStore.set nested key value) =
      KeyValueStore.set nested.snapshots key value :=
  Snapshots.ext (LawfulStore.contents_set nested.tower key value)
    (Tower.saved_set nested.tower key value)

theorem snapshots_delete (nested : Nested) (key : Bytes) :
    snapshots (KeyValueStore.delete nested key) = KeyValueStore.delete nested.snapshots key :=
  Snapshots.ext (LawfulStore.contents_delete nested.tower key)
    (Tower.saved_delete nested.tower key)

theorem snapshots_branch (nested : Nested) :
    nested.branch.snapshots = BranchingStore.branch nested.snapshots := rfl

theorem snapshots_commit (nested : Nested) :
    nested.commit.snapshots = BranchingStore.commit nested.snapshots := by
  obtain ⟨_ | depth, tower⟩ := nested
  · rfl
  · exact Snapshots.ext (Branch.contents_commit (σ := Tower depth) tower)
      (Tower.saved_commit tower)

theorem snapshots_discard (nested : Nested) :
    nested.discard.snapshots = BranchingStore.discard nested.snapshots := by
  obtain ⟨_ | depth, tower⟩ := nested <;> rfl

theorem get?_snapshots (nested : Nested) (key : Bytes) :
    KeyValueStore.get? nested.snapshots key = KeyValueStore.get? nested key :=
  (LawfulStore.get?_eq nested.tower key).symm

theorem visit_snapshots {β : Type} (nested : Nested) (stem : Bytes)
    (visitor : Bytes → Bytes → β → ForInStep β) (state : β) :
    KeyValueStore.visit nested.snapshots stem visitor state =
      KeyValueStore.visit nested stem visitor state :=
  (LawfulStore.visit_eq nested.tower stem visitor state).symm

theorem ground_snapshots (nested : Nested) : nested.snapshots.ground = nested.ground :=
  (Tower.ground_eq nested.tower).symm

theorem length_snapshots (nested : Nested) : nested.snapshots.saved.length = nested.depth :=
  Tower.length_saved nested.tower

end Nested

namespace Operation

theorem answer_snapshots (nested : Nested) (operation : Operation) :
    operation.answer nested.snapshots = operation.answer nested := by
  cases operation with
  | get key => exact congrArg Answer.value (nested.get?_snapshots key)
  | has key =>
      exact congrArg (fun found => Answer.present (Option.isSome found))
        (nested.get?_snapshots key)
  | keys stem =>
      exact congrArg (fun found => Answer.keys (List.reverse found))
        (nested.visit_snapshots stem (fun key _ seen => .yield (key :: seen)) [])
  | visit stem visitor state =>
      exact congrArg Answer.visited (nested.visit_snapshots stem visitor state)
  | _ => rfl

theorem snapshots_apply (nested : Nested) (operation : Operation) :
    (operation.apply nested).snapshots = operation.apply nested.snapshots := by
  cases operation with
  | set key value => exact nested.snapshots_set key value
  | delete key => exact nested.snapshots_delete key
  | branch => exact nested.snapshots_branch
  | commit => exact nested.snapshots_commit
  | discard => exact nested.snapshots_discard
  | _ => rfl

theorem snapshots_applyAll (nested : Nested) (operations : List Operation) :
    (applyAll nested operations).snapshots = applyAll nested.snapshots operations := by
  induction operations generalizing nested with
  | nil => rfl
  | cons operation rest ih =>
      have hrest := ih (operation.apply nested)
      rw [snapshots_apply] at hrest
      exact hrest

theorem answers_snapshots (nested : Nested) (operations : List Operation) :
    answers nested.snapshots operations = answers nested operations := by
  induction operations generalizing nested with
  | nil => rfl
  | cons operation rest ih =>
      rw [answers, answers, answer_snapshots, ← snapshots_apply, ih]

theorem ground_apply {snapshots : Snapshots} (operation : Operation)
    (hopen : snapshots.saved ≠ []) (hopen' : (operation.apply snapshots).saved ≠ []) :
    (operation.apply snapshots).ground = snapshots.ground := by
  obtain ⟨current, _ | ⟨before, rest⟩⟩ := snapshots
  · exact absurd rfl hopen
  · cases operation with
    | commit =>
        rcases rest with _ | ⟨before', rest⟩
        · exact absurd rfl hopen'
        · rfl
    | discard =>
        rcases rest with _ | ⟨before', rest⟩
        · exact absurd rfl hopen'
        · rfl
    | _ => rfl

theorem ground_applyAll {nested : Nested} {operations : List Operation}
    (hopen : ∀ begun, begun <+: operations → 0 < (applyAll nested begun).depth) :
    (applyAll nested operations).ground = nested.ground := by
  induction operations generalizing nested with
  | nil => rfl
  | cons operation rest ih =>
      have hsaved (begun : List Operation) (hbegun : begun <+: operation :: rest) :
          (applyAll nested.snapshots begun).saved ≠ [] := by
        rw [← snapshots_applyAll, ← List.length_pos_iff, Nested.length_snapshots]
        exact hopen begun hbegun
      have hstep : (operation.apply nested.snapshots).ground = nested.snapshots.ground :=
        ground_apply operation (hsaved [] List.nil_prefix)
          (hsaved [operation] (List.prefix_append [operation] rest))
      rw [← snapshots_apply, Nested.ground_snapshots, Nested.ground_snapshots] at hstep
      rw [← hstep]
      apply ih
      intro begun hbegun
      exact hopen (operation :: begun) (List.cons_prefix_cons.mpr ⟨rfl, hbegun⟩)

end Operation

end NameRegistry
