import NameRegistry.OrderedMap
/-!
Look-ups in ordered maps. A map is determined by its look-ups (`ext_get?`); `get?_insert` and
`get?_erase` describe an update by the look-ups of its result.
-/
namespace NameRegistry.OrderedMap

variable {κ ν : Type} [LT κ] [LE κ] [DecidableLT κ] [Std.IsLinearOrder κ] [Std.LawfulOrderLT κ]

omit [DecidableLT κ] in
theorem eq_of_not_lt {a b : κ} (h : ¬ a < b) (h' : ¬ b < a) : a = b :=
  Std.le_antisymm (Std.not_lt.mp h') (Std.not_lt.mp h)

theorem lookup?_insertEntry [DecidableEq κ] (key key' : κ) (value : ν)
    (entries : List (κ × ν)) :
    lookup? key' (insertEntry key value entries) =
      if key' = key then some value else lookup? key' entries := by
  induction entries with
  | nil =>
    simp only [insertEntry, lookup?]
    by_cases heq : key' = key
    · subst heq
      simp [Std.lt_irrefl]
    · rw [if_neg heq]
      split
      · rfl
      · split
        · rfl
        · rename_i h h'
          exact absurd (eq_of_not_lt h h') heq
  | cons first rest ih =>
    simp only [insertEntry]
    split
    · rename_i hlt
      simp only [lookup?]
      by_cases heq : key' = key
      · subst heq
        simp [Std.lt_irrefl]
      · rw [if_neg heq]
        by_cases h : key' < key
        · simp [h, Std.lt_trans h hlt]
        · by_cases h' : key < key'
          · simp [h, h']
          · exact absurd (eq_of_not_lt h h') heq
    · split
      · rename_i hnot hlt
        simp only [lookup?, ih]
        by_cases heq : key' = key
        · subst heq
          simp [hnot, hlt]
        · simp [heq]
      · rename_i hnot hnot'
        have hkey : key = first.1 := eq_of_not_lt hnot hnot'
        simp only [lookup?, ← hkey]
        by_cases heq : key' = key
        · subst heq
          simp [Std.lt_irrefl]
        · by_cases h : key' < key
          · simp [h, heq]
          · by_cases h' : key < key'
            · simp [h, h', heq]
            · exact absurd (eq_of_not_lt h h') heq

omit [LE κ] [Std.IsLinearOrder κ] [Std.LawfulOrderLT κ] in
theorem lookup?_eq_none_of_lt {key : κ} {entries : List (κ × ν)}
    (h : ∀ entry ∈ entries, key < entry.1) : lookup? key entries = none := by
  cases entries with
  | nil => rfl
  | cons first rest => simp [lookup?, h first (by simp)]

theorem lookup?_eraseEntry [DecidableEq κ] (key key' : κ) {entries : List (κ × ν)}
    (hasc : entries.Pairwise fun a b => a.1 < b.1) :
    lookup? key' (eraseEntry key entries) =
      if key' = key then none else lookup? key' entries := by
  induction entries with
  | nil => simp [eraseEntry, lookup?]
  | cons first rest ih =>
    obtain ⟨hfirst, hrest⟩ := List.pairwise_cons.mp hasc
    simp only [eraseEntry]
    split
    · rename_i hlt
      by_cases heq : key' = key
      · subst heq
        simp [lookup?, hlt]
      · simp [heq]
    · split
      · rename_i hnot hlt
        simp only [lookup?, ih hrest]
        by_cases heq : key' = key
        · subst heq
          simp [hnot, hlt]
        · simp [heq]
      · rename_i hnot hnot'
        have hkey : key = first.1 := eq_of_not_lt hnot hnot'
        by_cases heq : key' = key
        · subst heq
          rw [if_pos rfl]
          exact lookup?_eq_none_of_lt fun entry hentry => hkey ▸ hfirst entry hentry
        · rw [if_neg heq]
          simp only [lookup?, ← hkey]
          by_cases h : key' < key
          · simp only [h, if_true]
            exact lookup?_eq_none_of_lt fun entry hentry =>
              Std.lt_trans h (hkey ▸ hfirst entry hentry)
          · by_cases h' : key < key'
            · simp [h, h']
            · exact absurd (eq_of_not_lt h h') heq

theorem lookup?_eq_some_iff {key : κ} {value : ν} {entries : List (κ × ν)}
    (hasc : entries.Pairwise fun a b => a.1 < b.1) :
    lookup? key entries = some value ↔ (key, value) ∈ entries := by
  induction entries with
  | nil => simp [lookup?]
  | cons first rest ih =>
    obtain ⟨hfirst, hrest⟩ := List.pairwise_cons.mp hasc
    simp only [lookup?, List.mem_cons]
    split
    · rename_i hlt
      constructor
      · simp
      · rintro (rfl | h)
        · exact absurd hlt Std.lt_irrefl
        · exact absurd (Std.lt_trans hlt (hfirst _ h)) Std.lt_irrefl
    · split
      · rename_i hnot hlt
        rw [ih hrest]
        constructor
        · exact Or.inr
        · rintro (rfl | h)
          · exact absurd hlt Std.lt_irrefl
          · exact h
      · rename_i hnot hnot'
        have hkey : key = first.1 := eq_of_not_lt hnot hnot'
        constructor
        · intro h
          left
          rw [hkey, ← Option.some.inj h]
        · rintro (rfl | h)
          · rfl
          · exact absurd (hkey ▸ hfirst _ h) Std.lt_irrefl

/-- A key is bound to a value exactly if the pair is an entry. -/
theorem get?_eq_some_iff {map : OrderedMap κ ν} {key : κ} {value : ν} :
    map.get? key = some value ↔ (key, value) ∈ map.entries :=
  lookup?_eq_some_iff map.ascending

omit [LE κ] [Std.IsLinearOrder κ] [Std.LawfulOrderLT κ] in
@[simp] theorem get?_empty (key : κ) : (∅ : OrderedMap κ ν).get? key = none := rfl

@[simp] theorem get?_insert [DecidableEq κ] (map : OrderedMap κ ν) (key key' : κ) (value : ν) :
    (map.insert key value).get? key' = if key' = key then some value else map.get? key' :=
  lookup?_insertEntry key key' value map.entries

@[simp] theorem get?_erase [DecidableEq κ] (map : OrderedMap κ ν) (key key' : κ) :
    (map.erase key).get? key' = if key' = key then none else map.get? key' :=
  lookup?_eraseEntry key key' map.ascending

omit [DecidableLT κ] in
theorem entries_eq_of_mem_iff {a b : List (κ × ν)} (ha : a.Pairwise fun x y => x.1 < y.1)
    (hb : b.Pairwise fun x y => x.1 < y.1) (h : ∀ entry, entry ∈ a ↔ entry ∈ b) : a = b := by
  induction a generalizing b with
  | nil =>
    cases b with
    | nil => rfl
    | cons first rest => exact absurd ((h first).mpr (by simp)) (by simp)
  | cons first rest ih =>
    cases b with
    | nil => exact absurd ((h first).mp (by simp)) (by simp)
    | cons first' rest' =>
      obtain ⟨hfirst, hrest⟩ := List.pairwise_cons.mp ha
      obtain ⟨hfirst', hrest'⟩ := List.pairwise_cons.mp hb
      have heq : first = first' := by
        rcases List.mem_cons.mp ((h first).mp (by simp)) with h₁ | h₁
        · exact h₁
        · rcases List.mem_cons.mp ((h first').mpr (by simp)) with h₂ | h₂
          · exact h₂.symm
          · exact absurd (Std.lt_trans (hfirst _ h₂) (hfirst' _ h₁)) Std.lt_irrefl
      subst heq
      rw [ih hrest hrest' fun entry => ⟨fun hentry => ?_, fun hentry => ?_⟩]
      · rcases List.mem_cons.mp ((h entry).mp (by simp [hentry])) with rfl | h₁
        · exact absurd (hfirst _ hentry) Std.lt_irrefl
        · exact h₁
      · rcases List.mem_cons.mp ((h entry).mpr (by simp [hentry])) with rfl | h₁
        · exact absurd (hfirst' _ hentry) Std.lt_irrefl
        · exact h₁

/-- A map is determined by its look-ups. -/
theorem ext_get? {a b : OrderedMap κ ν} (h : ∀ key, a.get? key = b.get? key) : a = b :=
  eq_of_entries_eq <| entries_eq_of_mem_iff a.ascending b.ascending fun entry => by
    obtain ⟨key, value⟩ := entry
    exact get?_eq_some_iff.symm.trans (h key ▸ get?_eq_some_iff)

/-- Writing ascending entries one after another overlays them, if a step writes at the key of its
entry what `meaning` makes of it. -/
theorem get?_foldl [DecidableEq κ] {ω : Type} {step : OrderedMap κ ν → κ × ω → OrderedMap κ ν}
    (meaning : ω → Option ν)
    (hstep : ∀ map entry key,
      (step map entry).get? key = if key = entry.1 then meaning entry.2 else map.get? key)
    {entries : List (κ × ω)} (hasc : entries.Pairwise fun a b => a.1 < b.1)
    (map : OrderedMap κ ν) (key : κ) :
    (entries.foldl step map).get? key =
      (lookup? key entries).elim (map.get? key) meaning := by
  induction entries generalizing map with
  | nil => rfl
  | cons entry rest ih =>
      obtain ⟨hfirst, hrest⟩ := List.pairwise_cons.mp hasc
      rw [List.foldl_cons, ih hrest, hstep]
      -- Only the first of the ascending entries may be the one with the key.
      by_cases heq : key = entry.1
      · subst heq
        simp [lookup?, lookup?_eq_none_of_lt hfirst, Std.lt_irrefl]
      · by_cases hlt : key < entry.1
        · have hnone : lookup? key rest = none :=
            lookup?_eq_none_of_lt fun entry' hentry => Std.lt_trans hlt (hfirst entry' hentry)
          simp [lookup?, hlt, heq, hnone]
        · have hgt : entry.1 < key := by
            rcases Std.lt_trichotomy key entry.1 with h | h | h
            · exact absurd h hlt
            · exact absurd h heq
            · exact h
          simp [lookup?, hlt, hgt, heq]

theorem lookup?_filter {entries : List (κ × ν)} (hasc : entries.Pairwise fun a b => a.1 < b.1)
    (holds : κ → Bool) (key : κ) :
    lookup? key (entries.filter fun entry => holds entry.1) =
      if holds key then lookup? key entries else none := by
  ext value
  rw [lookup?_eq_some_iff (hasc.filter _), List.mem_filter]
  split
  · rename_i hkey
    rw [lookup?_eq_some_iff hasc]
    simp [hkey]
  · rename_i hkey
    simp [hkey]

/-- A map is the map of its entries. -/
theorem ofList_entries [DecidableEq κ] (map : OrderedMap κ ν) : ofList map.entries = map := by
  refine ext_get? fun key => ?_
  rw [ofList, get?_foldl some (fun map entry key => get?_insert map entry.1 key entry.2)
    map.ascending]
  change (lookup? key map.entries).elim none some = lookup? key map.entries
  cases lookup? key map.entries <;> rfl

end NameRegistry.OrderedMap
