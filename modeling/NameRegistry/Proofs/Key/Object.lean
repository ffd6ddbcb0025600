import NameRegistry.Key.Layout
import NameRegistry.Proofs.Text.Utf8

namespace NameRegistry

/-- Whether a name holds no separator. -/
def Plain (name : String) : Prop := separator ∉ Utf8.encode name

instance (name : String) : Decidable (Plain name) :=
  inferInstanceAs (Decidable (separator ∉ Utf8.encode name))

theorem separator_ne_ofNat {n : Nat} (h : 0x80 ≤ n) (h' : n < 256) :
    separator ≠ UInt8.ofNat n := by
  intro heq
  have hnat := congrArg UInt8.toNat heq
  rw [Utf8.toNat_ofNat h', separator] at hnat
  change 0x2A = n at hnat
  omega

theorem separator_mem_encodeChar {c : Char} (h : separator ∈ Utf8.encodeChar c) : c = '*' := by
  have hchar : Char.ofNat c.val.toNat = c := Char.ofNat_toNat c
  generalize hv : c.val.toNat = v at hchar
  simp only [Utf8.encodeChar, String.utf8EncodeChar, hv] at h
  split at h
  · rename_i hv
    have hnat := congrArg UInt8.toNat (List.mem_singleton.mp h)
    rw [Utf8.toNat_ofNat (by omega)] at hnat
    rw [← hchar, ← hnat]
    rfl
  -- Beyond ASCII the separator is below every byte of a character.
  have hbyte (n : Nat) : separator ≠ UInt8.ofNat (n % 0x40 + 0x80) :=
    separator_ne_ofNat (by omega) (by omega)
  split at h
  · have hfirst : separator ≠ UInt8.ofNat (v / 64 % 0x20 + 0xc0) :=
      separator_ne_ofNat (by omega) (by omega)
    simp only [List.mem_cons, List.not_mem_nil, hfirst, hbyte, or_self] at h
  split at h
  · have hfirst : separator ≠ UInt8.ofNat (v / 4096 % 0x10 + 0xe0) :=
      separator_ne_ofNat (by omega) (by omega)
    simp only [List.mem_cons, List.not_mem_nil, hfirst, hbyte, or_self] at h
  · have hfirst : separator ≠ UInt8.ofNat (v / 262144 % 0x08 + 0xf0) :=
      separator_ne_ofNat (by omega) (by omega)
    simp only [List.mem_cons, List.not_mem_nil, hfirst, hbyte, or_self] at h

theorem plain_of_notMem {name : String} (h : '*' ∉ name.toList) : Plain name := by
  intro hmem
  obtain ⟨c, hc, hbyte⟩ := List.mem_flatMap.mp hmem
  exact h (separator_mem_encodeChar hbyte ▸ hc)

theorem notMem_of_plain {name : String} (h : Plain name) : '*' ∉ name.toList := by
  intro hmem
  have hbyte : separator ∈ Utf8.encodeChar '*' := by decide
  exact h (List.mem_flatMap.mpr ⟨'*', hmem, hbyte⟩)

theorem exists_append_of_mem {name : String} (h : '*' ∈ name.toList) :
    ∃ before after, Plain before ∧ name = before ++ "*" ++ after := by
  obtain ⟨before, after, hsplit, hbefore⟩ := List.eq_append_cons_of_mem h
  refine ⟨String.ofList before, String.ofList after, plain_of_notMem (by simpa using hbefore), ?_⟩
  rw [← String.toList_inj, hsplit]
  simp

namespace Key

theorem append_separator_inj {first second rest rest' : Bytes} (hfirst : separator ∉ first)
    (hsecond : separator ∉ second)
    (h : first ++ separator :: rest = second ++ separator :: rest') :
    first = second ∧ rest = rest' := by
  induction first generalizing second with
  | nil =>
      rcases second with _ | ⟨byte, second⟩
      · exact ⟨rfl, (List.cons.inj h).2⟩
      · simp only [List.nil_append, List.cons_append, List.cons.injEq] at h
        exact absurd h.1 (fun heq => hsecond (by simp [heq]))
  | cons byte first ih =>
      rcases second with _ | ⟨byte', second⟩
      · simp only [List.nil_append, List.cons_append, List.cons.injEq] at h
        exact absurd h.1 (fun heq => hfirst (by simp [heq]))
      · simp only [List.cons_append, List.cons.injEq] at h
        obtain ⟨rfl, htail⟩ := h
        obtain ⟨rfl, hrest⟩ := ih (fun hmem => hfirst (by simp [hmem]))
          (fun hmem => hsecond (by simp [hmem])) htail
        exact ⟨rfl, hrest⟩

theorem object_inj {domain domain' name name' : String} (h : Plain domain) (h' : Plain domain')
    (heq : object domain name = object domain' name') : domain = domain' ∧ name = name' := by
  obtain ⟨hdomain, hname⟩ := append_separator_inj h h' heq
  exact ⟨Utf8.encode_injective hdomain, Utf8.encode_injective hname⟩

theorem account_eq_cons (domain name : String) : account domain name = 1 :: object domain name := by
  simp [account, accountsIn, accounts, object]

theorem account_inj {domain domain' name name' : String} (h : Plain domain) (h' : Plain domain')
    (heq : account domain name = account domain' name') : domain = domain' ∧ name = name' := by
  rw [account_eq_cons, account_eq_cons] at heq
  exact object_inj h h' (List.cons.inj heq).2

theorem domain_inj {name name' : String} (h : domain name = domain name') : name = name' :=
  Utf8.encode_injective (List.append_cancel_left h)

theorem object_append (domain before after : String) :
    object (domain ++ "*" ++ before) after = object domain (before ++ "*" ++ after) := by
  have hseparator : Utf8.encodeChar '*' = [separator] := by decide
  simp [object, Utf8.encode, hseparator]

theorem exists_plain_object (domain name : String) :
    ∃ domain' name', Plain domain' ∧ object domain' name' = object domain name := by
  by_cases hmem : '*' ∈ domain.toList
  · obtain ⟨before, after, hplain, rfl⟩ := exists_append_of_mem hmem
    exact ⟨before, after ++ "*" ++ name, hplain, (object_append before after name).symm⟩
  · exact ⟨domain, name, plain_of_notMem hmem, rfl⟩

theorem count_separator_object (domain name : String) :
    (object domain name).count separator =
      (Utf8.encode domain).count separator + ((Utf8.encode name).count separator + 1) := by
  rw [object, List.count_append, List.count_cons_self]

theorem plain_of_object {domain domain' name name' : String} (hdomain : Plain domain)
    (hname : Plain name) (hobject : object domain name = object domain' name') : Plain domain' := by
  have hcount := congrArg (List.count separator) hobject
  rw [count_separator_object, count_separator_object, List.count_eq_zero.mpr hdomain,
    List.count_eq_zero.mpr hname] at hcount
  exact List.count_eq_zero.mp (by omega)

end Key

end NameRegistry
