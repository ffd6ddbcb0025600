import NameRegistry.Text.Utf8

namespace NameRegistry.Utf8

theorem toNat_ofNat {n : Nat} (h : n < 256) : (UInt8.ofNat n).toNat = n := by
  rw [UInt8.toNat_ofNat']
  exact Nat.mod_eq_of_lt h

theorem start_of_lt {n : Nat} (h : n < 0x80) :
    start (.ofNat n) = .inl (.character (Char.ofNat n)) := by
  have hn : (UInt8.ofNat n).toNat = n := toNat_ofNat (by omega)
  simp [start, UInt8.lt_iff_toNat_lt, hn, h]

theorem start_two {n : Nat} (h : 0xC2 ≤ n) (h' : n < 0xE0) :
    start (.ofNat n) = .inr ⟨1, 1, 0x80, 0xBF, n - 0xC0⟩ := by
  have hn : (UInt8.ofNat n).toNat = n := toNat_ofNat (by omega)
  have h₁ : ¬ n < 0x80 := by omega
  have h₂ : ¬ n < 0xC2 := by omega
  simp [start, UInt8.lt_iff_toNat_lt, hn, h₁, h₂, h']

theorem start_three {n : Nat} (h : 0xE0 ≤ n) (h' : n < 0xF0) :
    start (.ofNat n) = .inr ⟨1, 2, if n = 0xE0 then 0xA0 else 0x80,
      if n = 0xED then 0x9F else 0xBF, n - 0xE0⟩ := by
  have hn : (UInt8.ofNat n).toNat = n := toNat_ofNat (by omega)
  have h₁ : ¬ n < 0x80 := by omega
  have h₂ : ¬ n < 0xC2 := by omega
  have h₃ : ¬ n < 0xE0 := by omega
  simp [start, UInt8.lt_iff_toNat_lt, ← UInt8.toNat_inj, hn, h₁, h₂, h₃, h']

theorem start_four {n : Nat} (h : 0xF0 ≤ n) (h' : n < 0xF5) :
    start (.ofNat n) = .inr ⟨1, 3, if n = 0xF0 then 0x90 else 0x80,
      if n = 0xF4 then 0x8F else 0xBF, n - 0xF0⟩ := by
  have hn : (UInt8.ofNat n).toNat = n := toNat_ofNat (by omega)
  have h₁ : ¬ n < 0x80 := by omega
  have h₂ : ¬ n < 0xC2 := by omega
  have h₃ : ¬ n < 0xE0 := by omega
  have h₄ : ¬ n < 0xF0 := by omega
  simp [start, UInt8.lt_iff_toNat_lt, ← UInt8.toNat_inj, hn, h₁, h₂, h₃, h₄, h']

theorem segmentsFrom_start {byte : UInt8} {begun : Begun} (h : start byte = .inr begun)
    (rest : Bytes) : segmentsFrom none (byte :: rest) = segmentsFrom (some begun) rest := by
  rw [segmentsFrom, h]

theorem segmentsFrom_more {taken owed code n : Nat} {low high : UInt8} (h : n < 256)
    (hlow : low.toNat ≤ n) (hhigh : n ≤ high.toNat) (rest : Bytes) :
    segmentsFrom (some ⟨taken, owed + 2, low, high, code⟩) (.ofNat n :: rest) =
      segmentsFrom (some ⟨taken + 1, owed + 1, 0x80, 0xBF, code * 64 + (n - 0x80)⟩) rest := by
  have hn : (UInt8.ofNat n).toNat = n := toNat_ofNat h
  have hbounds : low ≤ .ofNat n ∧ .ofNat n ≤ high := by
    rw [UInt8.le_iff_toNat_le, UInt8.le_iff_toNat_le, hn]
    exact ⟨hlow, hhigh⟩
  have howed : ¬ owed + 2 ≤ 1 := by omega
  simp only [segmentsFrom, if_pos hbounds, Begun.continue, hn, if_neg howed]
  rfl

theorem segmentsFrom_last {taken code n : Nat} {low high : UInt8} (h : n < 256)
    (hlow : low.toNat ≤ n) (hhigh : n ≤ high.toNat) (rest : Bytes) :
    segmentsFrom (some ⟨taken, 1, low, high, code⟩) (.ofNat n :: rest) =
      .character (Char.ofNat (code * 64 + (n - 0x80))) :: segmentsFrom none rest := by
  have hn : (UInt8.ofNat n).toNat = n := toNat_ofNat h
  have hbounds : low ≤ .ofNat n ∧ .ofNat n ≤ high := by
    rw [UInt8.le_iff_toNat_le, UInt8.le_iff_toNat_le, hn]
    exact ⟨hlow, hhigh⟩
  simp only [segmentsFrom, if_pos hbounds, Begun.continue, hn]
  rfl

theorem segmentsFrom_encodeChar (c : Char) (rest : Bytes) :
    segmentsFrom none (encodeChar c ++ rest) = .character c :: segmentsFrom none rest := by
  have hchar : Char.ofNat c.val.toNat = c := Char.ofNat_toNat c
  have hvalid : c.val.toNat < 0xD800 ∨ 0xDFFF < c.val.toNat ∧ c.val.toNat < 0x110000 := c.valid
  generalize hv : c.val.toNat = v at hchar hvalid
  simp only [encodeChar, String.utf8EncodeChar, hv]
  have hcontinuation (n : Nat) : 0x80 ≤ n % 0x40 + 0x80 ∧ n % 0x40 + 0x80 ≤ 0xBF := by omega
  -- One case for each number of bytes. In all of them the bits of the bytes make up `v` again.
  split
  · rw [List.singleton_append, segmentsFrom, start_of_lt (by omega), hchar]
  split
  · rw [List.cons_append, segmentsFrom_start (start_two (by omega) (by omega)),
      List.cons_append, segmentsFrom_last (by omega) (hcontinuation v).1 (hcontinuation v).2]
    rw [show (v / 64 % 0x20 + 0xc0 - 0xC0) * 64 + (v % 0x40 + 0x80 - 0x80) = v by omega, hchar]
    rfl
  split
  · have hlow : (if v / 4096 % 0x10 + 0xe0 = 0xE0 then 0xA0 else 0x80 : UInt8).toNat ≤
        v / 64 % 0x40 + 0x80 := by
      split
      · change 0xA0 ≤ _
        omega
      · exact (hcontinuation (v / 64)).1
    have hhigh : v / 64 % 0x40 + 0x80 ≤
        (if v / 4096 % 0x10 + 0xe0 = 0xED then 0x9F else 0xBF : UInt8).toNat := by
      split
      · change _ ≤ 0x9F
        omega
      · exact (hcontinuation (v / 64)).2
    rw [List.cons_append, segmentsFrom_start (start_three (by omega) (by omega)),
      List.cons_append, segmentsFrom_more (by omega) hlow hhigh,
      List.cons_append, segmentsFrom_last (by omega) (hcontinuation v).1 (hcontinuation v).2]
    rw [show ((v / 4096 % 0x10 + 0xe0 - 0xE0) * 64 + (v / 64 % 0x40 + 0x80 - 0x80)) * 64 +
      (v % 0x40 + 0x80 - 0x80) = v by omega, hchar]
    rfl
  · have hlow : (if v / 262144 % 0x08 + 0xf0 = 0xF0 then 0x90 else 0x80 : UInt8).toNat ≤
        v / 4096 % 0x40 + 0x80 := by
      split
      · change 0x90 ≤ _
        omega
      · exact (hcontinuation (v / 4096)).1
    have hhigh : v / 4096 % 0x40 + 0x80 ≤
        (if v / 262144 % 0x08 + 0xf0 = 0xF4 then 0x8F else 0xBF : UInt8).toNat := by
      split
      · change _ ≤ 0x8F
        omega
      · exact (hcontinuation (v / 4096)).2
    rw [List.cons_append, segmentsFrom_start (start_four (by omega) (by omega)),
      List.cons_append, segmentsFrom_more (by omega) hlow hhigh,
      List.cons_append, segmentsFrom_more (by omega) (hcontinuation (v / 64)).1
        (hcontinuation (v / 64)).2,
      List.cons_append, segmentsFrom_last (by omega) (hcontinuation v).1 (hcontinuation v).2]
    rw [show (((v / 262144 % 0x08 + 0xf0 - 0xF0) * 64 + (v / 4096 % 0x40 + 0x80 - 0x80)) * 64 +
      (v / 64 % 0x40 + 0x80 - 0x80)) * 64 + (v % 0x40 + 0x80 - 0x80) = v by omega, hchar]
    rfl

theorem segments_encode_append (text : String) (rest : Bytes) :
    segments (encode text ++ rest) = text.toList.map Segment.character ++ segments rest := by
  rw [segments, encode]
  induction text.toList with
  | nil => rfl
  | cons c chars ih =>
      rw [List.flatMap_cons, List.append_assoc, segmentsFrom_encodeChar, ih, List.map_cons,
        List.cons_append]

theorem segments_encode (text : String) :
    segments (encode text) = text.toList.map Segment.character := by
  have hsegments := segments_encode_append text []
  rwa [List.append_nil, show segments [] = [] from rfl, List.append_nil] at hsegments

theorem charactersFrom_characters (index : Nat) (chars : List Char) :
    charactersFrom index (chars.map Segment.character) = .ok chars := by
  induction chars generalizing index with
  | nil => rfl
  | cons c rest ih => rw [List.map_cons, charactersFrom, ih, Except.map]

@[simp] theorem decode_encode (text : String) : decode (encode text) = .ok text := by
  rw [decode, segments_encode, charactersFrom_characters, Except.map, String.ofList_toList]

@[simp] theorem decodeLossy_encode (text : String) : decodeLossy (encode text) = text := by
  have hshown : Segment.shown ∘ Segment.character = id := rfl
  rw [decodeLossy, segments_encode, List.map_map, hshown, List.map_id, String.ofList_toList]

theorem encode_injective {first second : String} (h : encode first = encode second) :
    first = second := by
  have hdecoded := congrArg decodeLossy h
  rwa [decodeLossy_encode, decodeLossy_encode] at hdecoded

theorem encode_prefix_iff {first second : String} :
    encode first <+: encode second ↔ first.toList <+: second.toList := by
  constructor
  · rintro ⟨rest, hrest⟩
    have hsegments := congrArg segments hrest
    rw [segments_encode_append, segments_encode] at hsegments
    have hinjective : Function.Injective Segment.character := fun _ _ => Segment.character.inj
    exact (List.prefix_map_iff_of_injective hinjective).mp ⟨segments rest, hsegments⟩
  · rintro ⟨rest, hrest⟩
    rw [encode, encode, ← hrest, List.flatMap_append]
    exact List.prefix_append _ _

theorem toNat_val_ofNat {n : Nat} (h : n.isValidChar) : (Char.ofNat n).val.toNat = n := by
  rw [Char.ofNat, dif_pos h]
  rfl

theorem encodeChar_one {n : Nat} (h : n < 0x80) : encodeChar (.ofNat n) = [.ofNat n] := by
  have hn : (Char.ofNat n).val.toNat = n := toNat_val_ofNat (Or.inl (by omega))
  simp only [encodeChar, String.utf8EncodeChar, hn]
  rw [if_pos (by omega)]

theorem encodeChar_two {a b : Nat} (ha : 0xC2 ≤ a) (ha' : a < 0xE0) (hb : 0x80 ≤ b)
    (hb' : b ≤ 0xBF) :
    encodeChar (.ofNat ((a - 0xC0) * 64 + (b - 0x80))) = [.ofNat a, .ofNat b] := by
  generalize hcode : (a - 0xC0) * 64 + (b - 0x80) = n
  have hn : (Char.ofNat n).val.toNat = n := toNat_val_ofNat (Or.inl (by omega))
  simp only [encodeChar, String.utf8EncodeChar, hn]
  rw [if_neg (by omega), if_pos (by omega)]
  rw [show n / 64 % 32 + 192 = a by omega, show n % 64 + 128 = b by omega]

theorem encodeChar_three {a b c : Nat} (ha : 0xE0 ≤ a) (ha' : a < 0xF0)
    (hb : (if a = 0xE0 then 0xA0 else 0x80) ≤ b) (hb' : b ≤ if a = 0xED then 0x9F else 0xBF)
    (hc : 0x80 ≤ c) (hc' : c ≤ 0xBF) :
    encodeChar (.ofNat (((a - 0xE0) * 64 + (b - 0x80)) * 64 + (c - 0x80))) =
      [.ofNat a, .ofNat b, .ofNat c] := by
  generalize hcode : ((a - 0xE0) * 64 + (b - 0x80)) * 64 + (c - 0x80) = n
  have hvalid : n.isValidChar := by
    unfold Nat.isValidChar
    split at hb' <;> omega
  have hn : (Char.ofNat n).val.toNat = n := toNat_val_ofNat hvalid
  simp only [encodeChar, String.utf8EncodeChar, hn]
  have hlong : 0x7FF < n := by split at hb <;> omega
  have hb_min : 0x80 ≤ b := by split at hb <;> omega
  have hb_max : b ≤ 0xBF := by split at hb' <;> omega
  rw [if_neg (by omega), if_neg (by omega), if_pos (by omega)]
  rw [show n / 4096 % 16 + 224 = a by omega, show n / 64 % 64 + 128 = b by omega,
    show n % 64 + 128 = c by omega]

theorem encodeChar_four {a b c d : Nat} (ha : 0xF0 ≤ a) (ha' : a < 0xF5)
    (hb : (if a = 0xF0 then 0x90 else 0x80) ≤ b) (hb' : b ≤ if a = 0xF4 then 0x8F else 0xBF)
    (hc : 0x80 ≤ c) (hc' : c ≤ 0xBF) (hd : 0x80 ≤ d) (hd' : d ≤ 0xBF) :
    encodeChar (.ofNat ((((a - 0xF0) * 64 + (b - 0x80)) * 64 + (c - 0x80)) * 64 + (d - 0x80))) =
      [.ofNat a, .ofNat b, .ofNat c, .ofNat d] := by
  generalize hcode : (((a - 0xF0) * 64 + (b - 0x80)) * 64 + (c - 0x80)) * 64 + (d - 0x80) = n
  have hlong : 0xFFFF < n := by split at hb <;> omega
  have hshort : n < 0x110000 := by split at hb' <;> omega
  have hn : (Char.ofNat n).val.toNat = n := toNat_val_ofNat (Or.inr ⟨by omega, hshort⟩)
  simp only [encodeChar, String.utf8EncodeChar, hn]
  have hb_min : 0x80 ≤ b := by split at hb <;> omega
  have hb_max : b ≤ 0xBF := by split at hb' <;> omega
  rw [if_neg (by omega), if_neg (by omega), if_neg (by omega)]
  rw [show n / 262144 % 8 + 240 = a by omega, show n / 4096 % 64 + 128 = b by omega,
    show n / 64 % 64 + 128 = c by omega, show n % 64 + 128 = d by omega]

theorem exists_next {taken owed code : Nat} {low high : UInt8} {bytes : Bytes} {chars : List Char}
    (h : segmentsFrom (some ⟨taken, owed, low, high, code⟩) bytes = chars.map .character) :
    ∃ n rest, bytes = .ofNat n :: rest ∧ n < 256 ∧ low.toNat ≤ n ∧ n ≤ high.toNat := by
  cases bytes with
  | nil => cases chars <;> cases h
  | cons byte rest =>
      rw [segmentsFrom] at h
      split at h
      · rename_i hbounds
        rw [UInt8.le_iff_toNat_le, UInt8.le_iff_toNat_le] at hbounds
        exact ⟨byte.toNat, rest, by rw [UInt8.ofNat_toNat], byte.toNat_lt, hbounds⟩
      · split at h <;> cases chars <;> cases h

theorem start_broken {n : Nat} (h : n < 256) (h' : 0x80 ≤ n ∧ n < 0xC2 ∨ 0xF5 ≤ n) :
    start (.ofNat n) = .inl (.broken 1) := by
  have hn : (UInt8.ofNat n).toNat = n := toNat_ofNat h
  have h₁ : ¬ n < 0x80 := by omega
  by_cases h₂ : n < 0xC2
  · simp [start, UInt8.lt_iff_toNat_lt, hn, h₁, h₂]
  · have h₃ : ¬ n < 0xE0 := by omega
    have h₄ : ¬ n < 0xF0 := by omega
    have h₅ : ¬ n < 0xF5 := by omega
    simp [start, UInt8.lt_iff_toNat_lt, hn, h₁, h₂, h₃, h₄, h₅]

theorem exists_cons {c : Char} {tail : Bytes} {chars : List Char}
    (h : .character c :: segmentsFrom none tail = chars.map .character) :
    ∃ chars', chars = c :: chars' ∧ segmentsFrom none tail = chars'.map .character := by
  cases chars with
  | nil => cases h
  | cons c' chars =>
      obtain ⟨hc, htail⟩ := List.cons.inj h
      exact ⟨chars, by rw [Segment.character.inj hc], htail⟩

theorem exists_first {byte : UInt8} {rest : Bytes} {chars : List Char}
    (h : segmentsFrom none (byte :: rest) = chars.map .character) :
    ∃ c tail chars', chars = c :: chars' ∧ byte :: rest = encodeChar c ++ tail ∧
      segmentsFrom none tail = chars'.map .character := by
  obtain ⟨a, rfl, ha⟩ : ∃ a, byte = .ofNat a ∧ a < 256 :=
    ⟨byte.toNat, UInt8.ofNat_toNat.symm, byte.toNat_lt⟩
  -- One case for each number of bytes that the first one can announce.
  by_cases hone : a < 0x80
  · rw [segmentsFrom, start_of_lt hone] at h
    obtain ⟨chars, hchars, htail⟩ := exists_cons h
    refine ⟨_, rest, chars, hchars, ?_, htail⟩
    rw [encodeChar_one hone, List.singleton_append]
  by_cases hbroken : a < 0xC2 ∨ 0xF5 ≤ a
  · rw [segmentsFrom, start_broken ha (by omega)] at h
    cases chars <;> cases h
  by_cases htwo : a < 0xE0
  · rw [segmentsFrom_start (start_two (by omega) htwo)] at h
    obtain ⟨b, tail, rfl, hb, hlow, hhigh⟩ := exists_next h
    rw [segmentsFrom_last hb hlow hhigh] at h
    obtain ⟨chars, hchars, htail⟩ := exists_cons h
    refine ⟨_, tail, chars, hchars, ?_, htail⟩
    rw [encodeChar_two (by omega) htwo hlow hhigh, List.cons_append, List.singleton_append]
  by_cases hthree : a < 0xF0
  · rw [segmentsFrom_start (start_three (by omega) hthree)] at h
    obtain ⟨b, tail, rfl, hb, hlow, hhigh⟩ := exists_next h
    rw [segmentsFrom_more hb hlow hhigh] at h
    obtain ⟨c, tail, rfl, hc, hlow', hhigh'⟩ := exists_next h
    rw [segmentsFrom_last hc hlow' hhigh'] at h
    obtain ⟨chars, hchars, htail⟩ := exists_cons h
    refine ⟨_, tail, chars, hchars, ?_, htail⟩
    rw [apply_ite UInt8.toNat] at hlow hhigh
    rw [encodeChar_three (by omega) hthree hlow hhigh hlow' hhigh']
    rfl
  · rw [segmentsFrom_start (start_four (by omega) (by omega))] at h
    obtain ⟨b, tail, rfl, hb, hlow, hhigh⟩ := exists_next h
    rw [segmentsFrom_more hb hlow hhigh] at h
    obtain ⟨c, tail, rfl, hc, hlow', hhigh'⟩ := exists_next h
    rw [segmentsFrom_more hc hlow' hhigh'] at h
    obtain ⟨d, tail, rfl, hd, hlow'', hhigh''⟩ := exists_next h
    rw [segmentsFrom_last hd hlow'' hhigh''] at h
    obtain ⟨chars, hchars, htail⟩ := exists_cons h
    refine ⟨_, tail, chars, hchars, ?_, htail⟩
    rw [apply_ite UInt8.toNat] at hlow hhigh
    rw [encodeChar_four (by omega) (by omega) hlow hhigh hlow' hhigh' hlow'' hhigh'']
    rfl

theorem eq_flatMap_of_segments {bytes : Bytes} {chars : List Char}
    (h : segments bytes = chars.map .character) : bytes = chars.flatMap encodeChar := by
  rw [segments] at h
  induction chars generalizing bytes with
  | nil =>
      cases bytes with
      | nil => rfl
      | cons byte rest =>
          obtain ⟨_, _, _, hchars, _⟩ := exists_first h
          cases hchars
  | cons c chars ih =>
      cases bytes with
      | nil => cases h
      | cons byte rest =>
          obtain ⟨_, tail, _, hchars, hbytes, htail⟩ := exists_first h
          obtain ⟨rfl, rfl⟩ := List.cons.inj hchars
          rw [hbytes, ih htail, List.flatMap_cons]

theorem eq_characters_of_charactersFrom {index : Nat} {segments : List Segment} {chars : List Char}
    (h : charactersFrom index segments = .ok chars) : segments = chars.map .character := by
  induction segments generalizing index chars with
  | nil =>
      obtain rfl := Except.ok.inj h
      rfl
  | cons segment rest ih =>
      cases segment with
      | character c =>
          rw [charactersFrom] at h
          cases hrest : charactersFrom (index + (encodeChar c).length) rest with
          | error error =>
              rw [hrest] at h
              cases h
          | ok chars' =>
              rw [hrest] at h
              obtain rfl := Except.ok.inj h
              rw [List.map_cons, ih hrest]
      | broken length => cases h
      | unfinished length => cases h

/-- Bytes are read as a text if they are its bytes, and otherwise not at all. -/
theorem decode_eq_ok_iff {bytes : Bytes} {text : String} :
    decode bytes = .ok text ↔ bytes = encode text := by
  constructor
  · intro h
    rw [decode] at h
    cases hchars : charactersFrom 0 (segments bytes) with
    | error error =>
        rw [hchars] at h
        cases h
    | ok chars =>
        rw [hchars] at h
        obtain rfl := Except.ok.inj h
        rw [encode, String.toList_ofList]
        exact eq_flatMap_of_segments (eq_characters_of_charactersFrom hchars)
  · rintro rfl
    exact decode_encode text

end NameRegistry.Utf8
