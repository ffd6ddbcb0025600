import NameRegistry.Proofs.Key.Slot
import Mathlib.Data.List.TakeWhile

namespace NameRegistry

/-- Whether bytes are those of a text. -/
def Utf8.IsText (bytes : Bytes) : Prop := ∃ text, encode text = bytes

namespace Key

theorem textPart_eq_ok_iff {part text : String} {bytes : Bytes} :
    textPart part bytes = .ok text ↔ Utf8.encode text = bytes := by
  rw [eq_comm (a := Utf8.encode text), ← Utf8.decode_eq_ok_iff, textPart]
  cases Utf8.decode bytes with
  | error error => exact ⟨nofun, nofun⟩
  | ok decoded =>
      constructor
      · exact fun h => congrArg Except.ok (Except.ok.inj h)
      · exact fun h => congrArg Except.ok (Except.ok.inj h)

theorem splitObject_append {before : Bytes} (hbefore : separator ∉ before) (after : Bytes)
    {names : String × String} :
    splitObject (before ++ separator :: after) = .ok names ↔
      Utf8.encode names.1 = before ∧ Utf8.encode names.2 = after := by
  have hbytes : ∀ byte ∈ before, (decide (byte ≠ separator)) = true := by
    intro byte hbyte
    exact decide_eq_true fun heq => hbefore (heq ▸ hbyte)
  have hdrop : (before ++ separator :: after).dropWhile (· ≠ separator) = separator :: after := by
    rw [List.dropWhile_append_of_pos hbytes, List.dropWhile_cons_of_neg (by simp)]
  have htake : (before ++ separator :: after).takeWhile (· ≠ separator) = before := by
    rw [List.takeWhile_append_of_pos hbytes, List.takeWhile_cons_of_neg (by simp),
      List.append_nil]
  rw [splitObject, hdrop, htake]
  simp only [bind_eq_ok_iff, textPart_eq_ok_iff]
  constructor
  · rintro ⟨domain, hdomain, name, hname, hnames⟩
    obtain rfl := Except.ok.inj hnames
    exact ⟨hdomain, hname⟩
  · rintro ⟨hdomain, hname⟩
    exact ⟨names.1, hdomain, names.2, hname, rfl⟩

theorem exists_append_of_splitObject {key : Bytes} {names : String × String}
    (h : splitObject key = .ok names) :
    ∃ before after, separator ∉ before ∧ key = before ++ separator :: after := by
  by_cases hmem : separator ∈ key
  · obtain ⟨before, after, hkey, hbefore⟩ := List.eq_append_cons_of_mem hmem
    exact ⟨before, after, hbefore, hkey⟩
  · have hnone : key.dropWhile (· ≠ separator) = [] := by
      rw [List.dropWhile_eq_nil_iff]
      exact fun byte hbyte => decide_eq_true fun heq => hmem (heq ▸ hbyte)
    rw [splitObject, hnone] at h
    cases h

theorem splitObject_eq_ok_iff {key : Bytes} {domain name : String} :
    splitObject key = .ok (domain, name) ↔ Plain domain ∧ object domain name = key := by
  constructor
  · intro h
    obtain ⟨before, after, hbefore, rfl⟩ := exists_append_of_splitObject h
    obtain ⟨rfl, rfl⟩ := (splitObject_append hbefore after).mp h
    exact ⟨hbefore, rfl⟩
  · rintro ⟨hplain, rfl⟩
    exact (splitObject_append hplain _).mpr ⟨rfl, rfl⟩

theorem splitObject_object {domain : String} (h : Plain domain) (name : String) :
    splitObject (object domain name) = .ok (domain, name) :=
  splitObject_eq_ok_iff.mpr ⟨h, rfl⟩

theorem exists_splitObject_iff {key : Bytes} :
    (∃ names, splitObject key = .ok names) ↔
      ∃ before after, key = before ++ separator :: after ∧ separator ∉ before ∧
        Utf8.IsText before ∧ Utf8.IsText after := by
  constructor
  · rintro ⟨names, h⟩
    obtain ⟨before, after, hbefore, rfl⟩ := exists_append_of_splitObject h
    obtain ⟨hdomain, hname⟩ := (splitObject_append hbefore after).mp h
    exact ⟨before, after, rfl, hbefore, ⟨_, hdomain⟩, ⟨_, hname⟩⟩
  · rintro ⟨before, after, rfl, hbefore, ⟨domain, hdomain⟩, ⟨name, hname⟩⟩
    exact ⟨(domain, name), (splitObject_append hbefore after).mpr ⟨hdomain, hname⟩⟩

theorem targetOfSubject_eq_ok_iff {subject : Bytes} {target : Target} :
    targetOfSubject subject = .ok target ↔
      ∃ id address, Packed.unpack subject = .ok [id, address] ∧
        target = ⟨Utf8.decodeLossy id, Utf8.decodeLossy address⟩ := by
  rw [targetOfSubject, bind_eq_ok_iff]
  constructor
  · rintro ⟨components, hunpack, htarget⟩
    split at htarget
    · exact ⟨_, _, hunpack, (Except.ok.inj htarget).symm⟩
    · cases htarget
  · rintro ⟨id, address, hunpack, rfl⟩
    exact ⟨_, hunpack, rfl⟩

theorem exists_targetSubject_iff {target : Target} :
    (∃ subject, targetSubject target = .ok subject) ↔ target.Packable := by
  simp only [targetSubject_eq_ok_iff, exists_and_left, exists_eq, and_true]

theorem targetSubject_eq_ok_iff_unpack {target : Target} {subject : Bytes} :
    targetSubject target = .ok subject ↔
      Packed.unpack subject = .ok [Utf8.encode target.id, Utf8.encode target.address] := by
  rw [Packed.unpack_eq_ok_iff, Packed.pack_eq_ok_iff, targetSubject_eq_ok_iff]
  constructor
  · rintro ⟨hpackable, hsubject⟩
    exact ⟨List.cons_ne_nil _ _, hpackable.components, hsubject⟩
  · rintro ⟨-, hcomponents, hsubject⟩
    obtain ⟨hid, haddress⟩ := List.forall_mem_cons.mp hcomponents
    exact ⟨⟨hid, List.forall_mem_singleton.mp haddress⟩, hsubject⟩

theorem targetSubject_eq_ok_iff_read {target : Target} {subject : Bytes} :
    targetSubject target = .ok subject ↔
      targetOfSubject subject = .ok target ∧
        ∃ id address, Packed.unpack subject = .ok [id, address] ∧
          Utf8.IsText id ∧ Utf8.IsText address := by
  rw [targetSubject_eq_ok_iff_unpack, targetOfSubject_eq_ok_iff]
  constructor
  · intro hunpack
    refine ⟨⟨_, _, hunpack, ?_⟩, _, _, hunpack, ⟨_, rfl⟩, ⟨_, rfl⟩⟩
    rw [Utf8.decodeLossy_encode, Utf8.decodeLossy_encode]
  · rintro ⟨⟨id, address, hunpack, rfl⟩, id', address', hunpack', ⟨text, rfl⟩, ⟨text', rfl⟩⟩
    obtain ⟨rfl, hrest⟩ := List.cons.inj (Except.ok.inj (hunpack.symm.trans hunpack'))
    obtain ⟨rfl, -⟩ := List.cons.inj hrest
    rw [hunpack, Utf8.decodeLossy_encode, Utf8.decodeLossy_encode]

/-- A byte string splits into two names exactly if it is their object and the first of them holds no
separator, and it splits at all exactly if it holds a separator with text before the first one and
behind it. A target has a subject exactly if both of its texts take 1 to 254 bytes, and that is the
byte string which is read as the target and has two texts as its components. -/
theorem splitting_exact :
    (∀ (key : Bytes) (domain name : String), splitObject key = .ok (domain, name) ↔
      '*' ∉ domain.toList ∧ object domain name = key) ∧
    (∀ key : Bytes, (∃ names, splitObject key = .ok names) ↔
      ∃ before after, key = before ++ separator :: after ∧ separator ∉ before ∧
        Utf8.IsText before ∧ Utf8.IsText after) ∧
    (∀ target : Target, (∃ subject, targetSubject target = .ok subject) ↔
      (1 ≤ Utf8.size target.id ∧ Utf8.size target.id ≤ 254) ∧
        1 ≤ Utf8.size target.address ∧ Utf8.size target.address ≤ 254) ∧
    ∀ (target : Target) (subject : Bytes), targetSubject target = .ok subject ↔
      targetOfSubject subject = .ok target ∧
        ∃ id address, Packed.unpack subject = .ok [id, address] ∧
          Utf8.IsText id ∧ Utf8.IsText address := by
  refine ⟨fun key domain name => ?_, fun key => exists_splitObject_iff,
    fun target => exists_targetSubject_iff, fun target subject => targetSubject_eq_ok_iff_read⟩
  rw [splitObject_eq_ok_iff]
  exact and_congr_left fun _ => ⟨notMem_of_plain, plain_of_notMem⟩

/-- A component that is no text is read as a text nevertheless, which has a subject of its own. -/
example :
    (targetOfSubject [1, 0xFF, 1, 0x78]).toOption = some ⟨"\ufffd", "x"⟩ ∧
      (targetSubject ⟨"\ufffd", "x"⟩).toOption = some [3, 0xEF, 0xBF, 0xBD, 1, 0x78] := by
  decide +kernel

end Key

end NameRegistry
