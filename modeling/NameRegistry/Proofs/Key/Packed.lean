import NameRegistry.Key.Packed

namespace NameRegistry.Packed

/-- Whether a component can be packed. -/
def Packable (component : Bytes) : Prop :=
  1 ≤ component.length ∧ component.length ≤ maxLength

instance (component : Bytes) : Decidable (Packable component) :=
  inferInstanceAs (Decidable (_ ∧ _))

/-- Components one after another, each behind its length. -/
def joined (components : List Bytes) : Bytes :=
  components.flatMap fun component => component.length.toUInt8 :: component

theorem joined_cons (component : Bytes) (rest : List Bytes) :
    joined (component :: rest) = component.length.toUInt8 :: (component ++ joined rest) := rfl

theorem joined_eq_nil_iff {components : List Bytes} : joined components = [] ↔ components = [] := by
  cases components with
  | nil => exact ⟨fun _ => rfl, fun _ => rfl⟩
  | cons component rest => exact ⟨nofun, nofun⟩

theorem toNat_length {component : Bytes} (h : Packable component) :
    component.length.toUInt8.toNat = component.length := by
  have hbound := h.2
  simp only [Nat.toUInt8, UInt8.toNat_ofNat', maxLength] at hbound ⊢
  omega

theorem packFrom_of_packable {components : List Bytes} (index : Nat)
    (h : ∀ component ∈ components, Packable component) :
    packFrom index components = .ok (joined components) := by
  induction components generalizing index with
  | nil => rfl
  | cons component rest ih =>
      have hcomponent : 1 ≤ component.length ∧ component.length ≤ maxLength :=
        h component (by simp)
      have hrest := ih (index + 1) fun component' hmem => h component' (by simp [hmem])
      rw [packFrom, if_pos hcomponent, hrest]
      simp [Except.map, joined]

theorem packable_of_packFrom {components : List Bytes} {index : Nat} {packed : Bytes}
    (h : packFrom index components = .ok packed) :
    ∀ component ∈ components, Packable component := by
  induction components generalizing index packed with
  | nil => simp
  | cons component rest ih =>
      rw [packFrom] at h
      split at h
      · rename_i hcomponent
        cases hrest : packFrom (index + 1) rest with
        | error error =>
            rw [hrest] at h
            cases h
        | ok packedRest =>
            intro component' hmem
            rcases List.mem_cons.mp hmem with rfl | hmem
            · exact hcomponent
            · exact ih hrest component' hmem
      · cases h

theorem pack_eq_ok_iff {components : List Bytes} {packed : Bytes} :
    pack components = .ok packed ↔
      (∀ component ∈ components, Packable component) ∧ packed = joined components := by
  constructor
  · intro h
    have hpackable := packable_of_packFrom h
    rw [pack, packFrom_of_packable 0 hpackable] at h
    exact ⟨hpackable, (Except.ok.inj h).symm⟩
  · rintro ⟨hpackable, rfl⟩
    exact packFrom_of_packable 0 hpackable

theorem joined_append_inj {first second : List Bytes} {rest rest' : Bytes}
    (hfirst : ∀ component ∈ first, Packable component)
    (hsecond : ∀ component ∈ second, Packable component)
    (hlength : first.length = second.length)
    (h : joined first ++ rest = joined second ++ rest') : first = second ∧ rest = rest' := by
  induction first generalizing second with
  | nil =>
      rcases second with _ | ⟨component, second⟩
      · exact ⟨rfl, h⟩
      · simp at hlength
  | cons component first ih =>
      rcases second with _ | ⟨component', second⟩
      · simp at hlength
      simp only [joined, List.flatMap_cons, List.cons_append, List.append_assoc,
        List.cons.injEq] at h
      obtain ⟨hhead, htail⟩ := h
      have hsame : component.length = component'.length := by
        have hnat := congrArg UInt8.toNat hhead
        rwa [toNat_length (hfirst component (by simp)),
          toNat_length (hsecond component' (by simp))] at hnat
      obtain ⟨rfl, hjoined⟩ := List.append_inj htail hsame
      obtain ⟨rfl, hrest⟩ := ih (fun c hc => hfirst c (by simp [hc]))
        (fun c hc => hsecond c (by simp [hc])) (by simpa using hlength) hjoined
      exact ⟨rfl, hrest⟩

theorem unpack_component {component : Bytes} (h : Packable component) (rest : Bytes) :
    unpack (component.length.toUInt8 :: (component ++ rest)) =
      if rest = [] then .ok [component] else (unpack rest).map (component :: ·) := by
  have hhead := toNat_length h
  obtain ⟨hsome, hbound⟩ := h
  have hfits : ¬ (component.length = 0 ∨ maxLength < component.length ∨
      (component ++ rest).length < component.length) := by
    rw [List.length_append]
    omega
  have hexact : (component ++ rest).length = component.length ↔ rest = [] := by
    rw [List.length_append, ← List.length_eq_zero_iff]
    omega
  cases component with
  | nil => cases hsome
  | cons byte component =>
      rw [List.cons_append] at hfits hexact ⊢
      rw [unpack, hhead, if_neg hfits]
      simp only [hexact]
      split
      · rename_i hempty
        rw [hempty, List.append_nil]
      · rw [← List.cons_append, List.take_left, List.drop_left]

theorem unpack_joined {components : List Bytes} (hsome : components ≠ [])
    (h : ∀ component ∈ components, Packable component) :
    unpack (joined components) = .ok components := by
  induction components with
  | nil => exact absurd rfl hsome
  | cons component rest ih =>
      obtain ⟨hcomponent, hrest⟩ := List.forall_mem_cons.mp h
      rw [joined_cons, unpack_component hcomponent]
      split
      · rename_i hempty
        rw [joined_eq_nil_iff.mp hempty]
      · rename_i hmore
        rw [ih (fun hnil => hmore (joined_eq_nil_iff.mpr hnil)) hrest]
        rfl

theorem eq_joined_of_unpack {packed : Bytes} {components : List Bytes}
    (h : unpack packed = .ok components) :
    components ≠ [] ∧ (∀ component ∈ components, Packable component) ∧
      packed = joined components := by
  fun_induction unpack packed generalizing components with
  | case1 => cases h
  | case2 => cases h
  | case3 => cases h
  | case4 head next rest length body hfits =>
      rename_i hexact
      obtain rfl := Except.ok.inj h
      refine ⟨nofun, List.forall_mem_singleton.mpr ?_, ?_⟩
      · rw [Packable, hexact]
        omega
      · rw [joined_cons, hexact, Nat.toUInt8_eq, UInt8.ofNat_toNat]
        exact congrArg _ (List.append_nil _).symm
  | case5 head next rest length body hfits hmore =>
      rename_i ih
      cases hrest : unpack (body.drop length) with
      | error error =>
          rw [hrest] at h
          cases h
      | ok components' =>
          rw [hrest] at h
          obtain rfl := Except.ok.inj h
          obtain ⟨_, hpackable, hjoined⟩ := ih hrest
          have hlength : (body.take length).length = length := by
            rw [List.length_take]
            omega
          refine ⟨nofun, List.forall_mem_cons.mpr ⟨?_, hpackable⟩, ?_⟩
          · rw [Packable, hlength]
            omega
          · rw [joined_cons, hlength, Nat.toUInt8_eq, UInt8.ofNat_toNat, ← hjoined,
              List.take_append_drop]

theorem unpack_eq_ok_iff {packed : Bytes} {components : List Bytes} :
    unpack packed = .ok components ↔ components ≠ [] ∧ pack components = .ok packed := by
  rw [pack_eq_ok_iff]
  constructor
  · exact eq_joined_of_unpack
  · rintro ⟨hsome, hpackable, rfl⟩
    exact unpack_joined hsome hpackable

/-- Packing is a bijection from the lists of components of 1 to 254 bytes, the empty list apart,
to the keys that can be unpacked. -/
theorem packing_exact :
    (∀ components : List Bytes, (∃ packed, pack components = .ok packed) ↔
      ∀ component ∈ components, 1 ≤ component.length ∧ component.length ≤ 254) ∧
    ∀ packed components,
      unpack packed = .ok components ↔ components ≠ [] ∧ pack components = .ok packed := by
  constructor
  · intro components
    constructor
    · rintro ⟨packed, h⟩
      exact (pack_eq_ok_iff.mp h).1
    · intro h
      exact ⟨joined components, pack_eq_ok_iff.mpr ⟨h, rfl⟩⟩
  · intro packed components
    exact unpack_eq_ok_iff

end NameRegistry.Packed
