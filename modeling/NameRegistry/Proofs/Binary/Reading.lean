import Mathlib.Algebra.Group.Nat.Defs
import NameRegistry.Binary.Basic
import NameRegistry.Proofs.Text.Utf8
/-!
Values that are written in binary and read again. A reader reads bytes as a value if it takes
exactly these bytes from the front of any byte string (`Reads`), and is exact if it takes no other
bytes for a value than those the value is written as (`Exact`). Readers of parts compose to readers
of the whole either way.
-/
namespace NameRegistry.Binary

/-- What eight bytes can count. -/
def lengthBound : Nat := 2 ^ 64

namespace Reader

variable {α β : Type}

/-- Whether a reader takes the given bytes, and no more, for a value. -/
def Reads (reader : Reader α) (bytes : Bytes) (value : α) : Prop :=
  ∀ rest, reader (bytes ++ rest) = some (value, rest)

theorem reads_pure (value : α) : Reads (pure value) [] value := fun _ => rfl

theorem reads_bind {reader : Reader α} (next : α → Reader β) {bytes bytes' : Bytes} {value : α}
    {value' : β} (h : Reads reader bytes value) (hnext : Reads (next value) bytes' value') :
    Reads (reader >>= next) (bytes ++ bytes') value' := by
  intro rest
  change (reader (bytes ++ bytes' ++ rest)).bind (fun found => next found.1 found.2) = _
  rw [List.append_assoc, h]
  exact hnext rest

theorem reads_map {reader : Reader α} {bytes : Bytes} {value : α} (change : α → β)
    (h : Reads reader bytes value) :
    Reads (do return change (← reader)) bytes (change value) := by
  have hmapped := reads_bind (fun value => pure (change value)) h (reads_pure (change value))
  rwa [List.append_nil] at hmapped

theorem reads_take (bytes : Bytes) : Reads (take bytes.length) bytes bytes := by
  intro rest
  rw [take, if_pos (by simp), List.splitAt_eq, List.take_left, List.drop_left]

theorem length_number (width n : Nat) : (Binary.number width n).length = width := by
  induction width generalizing n with
  | zero => rfl
  | succ width ih => rw [Binary.number, List.length_cons, ih]

theorem valueOf_number {width n : Nat} (h : n < 256 ^ width) :
    valueOf (Binary.number width n) = n := by
  induction width generalizing n with
  | zero =>
      have hzero : n = 0 := by simpa using h
      rw [hzero]
      rfl
  | succ width ih =>
      have hquotient : n / 256 < 256 ^ width := by
        rw [Nat.div_lt_iff_lt_mul (by decide)]
        simpa [Nat.pow_succ] using h
      have hbyte : ((n % 256).toUInt8).toNat = n % 256 :=
        Utf8.toNat_ofNat (Nat.mod_lt n (by decide))
      rw [Binary.number, valueOf, List.foldr_cons]
      change _ + 256 * valueOf (Binary.number width (n / 256)) = n
      rw [ih hquotient, hbyte, Nat.mod_add_div]

theorem reads_number {width n : Nat} (h : n < 256 ^ width) :
    Reads (number width) (Binary.number width n) n := by
  have htake := reads_take (Binary.number width n)
  rw [length_number] at htake
  have hmapped := reads_map valueOf htake
  rwa [valueOf_number h] at hmapped

theorem reads_int64 (n : Int64) : Reads int64 (Binary.int64 n) n := by
  have hbound : n.toUInt64.toNat < 256 ^ 8 := n.toUInt64.toNat_lt
  have hmapped := reads_map (fun m => (UInt64.ofNat m).toInt64) (reads_number hbound)
  have hword : (UInt64.ofNat n.toUInt64.toNat).toInt64 = n := by
    rw [UInt64.ofNat_toNat]
    rfl
  rwa [hword] at hmapped

theorem reads_block {bytes : Bytes} (h : bytes.length < lengthBound) :
    Reads block (Binary.block bytes) bytes :=
  reads_bind take (reads_number h) (reads_take bytes)

theorem reads_text {text : String} (h : Utf8.size text < lengthBound) :
    Reads Reader.text (Binary.text text) text := by
  rw [Reader.text, Binary.text, ← List.append_nil (Binary.block _)]
  apply reads_bind _ (reads_block h)
  rw [Utf8.decode_encode]
  exact reads_pure text

theorem reads_items {item : Reader α} {toBytes : α → Bytes} {values : List α}
    (h : ∀ value ∈ values, Reads item (toBytes value) value) :
    Reads (items item values.length) (values.flatMap toBytes) values := by
  induction values with
  | nil => exact reads_pure []
  | cons value rest ih =>
      have hrest := reads_map (value :: ·) (ih fun value' hvalue => h value' (by simp [hvalue]))
      exact reads_bind (fun first => do return first :: (← items item rest.length))
        (h value (by simp)) hrest

theorem reads_list {item : Reader α} {toBytes : α → Bytes} {values : List α}
    (hlength : values.length < lengthBound)
    (h : ∀ value ∈ values, Reads item (toBytes value) value) :
    Reads (list item) (Binary.list toBytes values) values :=
  reads_bind (items item) (reads_number hlength) (reads_items h)

theorem reads_option {value : Reader α} {toBytes : α → Bytes} {optional : Option α}
    (h : ∀ present ∈ optional, Reads value (toBytes present) present) :
    Reads (option value) (Binary.option toBytes optional) optional := by
  rw [option]
  cases optional with
  | none =>
      have htag : Reads (number 1) (Binary.number 1 0) 0 := reads_number (by decide)
      exact reads_bind _ htag (reads_pure none)
  | some present =>
      have htag : Reads (number 1) (Binary.number 1 1) 1 := reads_number (by decide)
      exact reads_bind _ htag (reads_map some (h present rfl))

theorem reads_address (owner : Address) : Reads address owner.bytes owner := by
  have hbytes : Address.ofBytes owner.bytes = .ok owner := dif_pos owner.length_eq
  have htake := reads_take owner.bytes
  rw [owner.length_eq] at htake
  rw [address, ← List.append_nil owner.bytes]
  apply reads_bind _ htake
  rw [hbytes]
  exact reads_pure owner

/-- Whether a reader takes nothing for a value but the bytes it is written as, and only values that
fit. -/
def Exact (reader : Reader α) (toBytes : α → Bytes) (fits : α → Prop) : Prop :=
  ∀ {bytes rest : Bytes} {value : α}, reader bytes = some (value, rest) →
    bytes = toBytes value ++ rest ∧ fits value

theorem bind_eq_some_iff {reader : Reader α} {next : α → Reader β} {bytes rest : Bytes}
    {value : β} : (reader >>= next) bytes = some (value, rest) ↔
      ∃ first behind, reader bytes = some (first, behind) ∧
        next first behind = some (value, rest) := by
  change (reader bytes).bind (fun found => next found.1 found.2) = _ ↔ _
  rw [Option.bind_eq_some_iff, Prod.exists]

theorem pure_eq_some_iff {value value' : α} {bytes rest : Bytes} :
    (pure value : Reader α) bytes = some (value', rest) ↔ value = value' ∧ bytes = rest := by
  change some (value, bytes) = _ ↔ _
  rw [Option.some.injEq, Prod.mk.injEq]

theorem exact_take (count : Nat) :
    Exact (take count) (fun bytes => bytes) fun bytes => bytes.length = count := by
  intro bytes rest value h
  rw [take] at h
  split at h
  · rename_i hcount
    rw [List.splitAt_eq] at h
    obtain ⟨rfl, rfl⟩ := Prod.mk.inj (Option.some.inj h)
    exact ⟨(List.take_append_drop count bytes).symm, List.length_take_of_le hcount⟩
  · cases h

theorem valueOf_lt (bytes : Bytes) : valueOf bytes < 256 ^ bytes.length := by
  induction bytes with
  | nil => decide
  | cons byte rest ih =>
      have hbyte := byte.toNat_lt
      rw [valueOf, List.foldr_cons, List.length_cons, Nat.pow_succ]
      change byte.toNat + 256 * valueOf rest < _
      omega

theorem number_valueOf (bytes : Bytes) :
    Binary.number bytes.length (valueOf bytes) = bytes := by
  induction bytes with
  | nil => rfl
  | cons byte rest ih =>
      have hbyte := byte.toNat_lt
      rw [List.length_cons, Binary.number]
      change ((byte.toNat + 256 * valueOf rest) % 256).toUInt8 ::
        Binary.number rest.length ((byte.toNat + 256 * valueOf rest) / 256) = _
      rw [show (byte.toNat + 256 * valueOf rest) % 256 = byte.toNat by omega,
        show (byte.toNat + 256 * valueOf rest) / 256 = valueOf rest by omega, ih,
        Nat.toUInt8_eq, UInt8.ofNat_toNat]

theorem exact_number (width : Nat) :
    Exact (number width) (Binary.number width) fun n => n < 256 ^ width := by
  intro bytes rest n h
  obtain ⟨taken, behind, htake, hvalue⟩ := bind_eq_some_iff.mp h
  obtain ⟨rfl, rfl⟩ := pure_eq_some_iff.mp hvalue
  obtain ⟨rfl, rfl⟩ := exact_take width htake
  exact ⟨by rw [number_valueOf], valueOf_lt taken⟩

theorem exact_int64 : Exact int64 Binary.int64 fun _ => True := by
  intro bytes rest n h
  obtain ⟨word, behind, hnumber, hvalue⟩ := bind_eq_some_iff.mp h
  obtain ⟨rfl, rfl⟩ := pure_eq_some_iff.mp hvalue
  obtain ⟨rfl, hword⟩ := exact_number 8 hnumber
  refine ⟨?_, trivial⟩
  rw [Binary.int64, UInt64.toUInt64_toInt64, UInt64.toNat_ofNat_of_lt' hword]

theorem exact_block : Exact block Binary.block fun bytes => bytes.length < lengthBound := by
  intro bytes rest found h
  obtain ⟨count, behind, hcount, htake⟩ := bind_eq_some_iff.mp h
  obtain ⟨rfl, hbound⟩ := exact_number 8 hcount
  obtain ⟨rfl, rfl⟩ := exact_take count htake
  exact ⟨(List.append_assoc _ _ _).symm, hbound⟩

theorem exact_text : Exact Reader.text Binary.text fun text => Utf8.size text < lengthBound := by
  intro bytes rest text h
  obtain ⟨encoded, behind, hblock, hdecode⟩ := bind_eq_some_iff.mp h
  obtain ⟨rfl, hbound⟩ := exact_block hblock
  cases hfound : Utf8.decode encoded with
  | error error =>
      rw [hfound] at hdecode
      cases hdecode
  | ok found =>
      rw [hfound] at hdecode
      obtain ⟨rfl, rfl⟩ := pure_eq_some_iff.mp hdecode
      obtain rfl := Utf8.decode_eq_ok_iff.mp hfound
      exact ⟨rfl, hbound⟩

theorem exact_items {item : Reader α} {toBytes : α → Bytes} {fits : α → Prop}
    (h : Exact item toBytes fits) (count : Nat) :
    Exact (items item count) (fun values => values.flatMap toBytes) fun values =>
      values.length = count ∧ ∀ value ∈ values, fits value := by
  induction count with
  | zero =>
      intro bytes rest values hitems
      obtain ⟨rfl, rfl⟩ := pure_eq_some_iff.mp hitems
      exact ⟨rfl, rfl, nofun⟩
  | succ count ih =>
      intro bytes rest values hitems
      obtain ⟨first, behind, hfirst, hmore⟩ := bind_eq_some_iff.mp hitems
      obtain ⟨others, behind', hothers, hvalues⟩ := bind_eq_some_iff.mp hmore
      obtain ⟨rfl, rfl⟩ := pure_eq_some_iff.mp hvalues
      obtain ⟨rfl, hfits⟩ := h hfirst
      obtain ⟨rfl, hcount, hall⟩ := ih hothers
      exact ⟨(List.append_assoc _ _ _).symm, congrArg _ hcount,
        List.forall_mem_cons.mpr ⟨hfits, hall⟩⟩

theorem exact_list {item : Reader α} {toBytes : α → Bytes} {fits : α → Prop}
    (h : Exact item toBytes fits) :
    Exact (list item) (Binary.list toBytes) fun values =>
      values.length < lengthBound ∧ ∀ value ∈ values, fits value := by
  intro bytes rest values hlist
  obtain ⟨count, behind, hcount, hitems⟩ := bind_eq_some_iff.mp hlist
  obtain ⟨rfl, hbound⟩ := exact_number 8 hcount
  obtain ⟨rfl, rfl, hall⟩ := exact_items h count hitems
  exact ⟨(List.append_assoc _ _ _).symm, hbound, hall⟩

theorem exact_option {value : Reader α} {toBytes : α → Bytes} {fits : α → Prop}
    (h : Exact value toBytes fits) :
    Exact (option value) (Binary.option toBytes) fun optional =>
      ∀ present ∈ optional, fits present := by
  intro bytes rest optional hoption
  obtain ⟨tag, behind, htag, hvalue⟩ := bind_eq_some_iff.mp hoption
  obtain ⟨rfl, _⟩ := exact_number 1 htag
  split at hvalue
  · obtain ⟨rfl, rfl⟩ := pure_eq_some_iff.mp hvalue
    exact ⟨rfl, nofun⟩
  · obtain ⟨present, behind', hpresent, hsome⟩ := bind_eq_some_iff.mp hvalue
    obtain ⟨rfl, rfl⟩ := pure_eq_some_iff.mp hsome
    obtain ⟨rfl, hfits⟩ := h hpresent
    exact ⟨rfl, fun _ hmem => Option.some.inj hmem ▸ hfits⟩
  · cases hvalue

theorem exact_address : Exact address Address.bytes fun _ => True := by
  intro bytes rest owner h
  obtain ⟨taken, behind, htake, hread⟩ := bind_eq_some_iff.mp h
  obtain ⟨rfl, hlength⟩ := exact_take 20 htake
  rw [Address.ofBytes, dif_pos hlength] at hread
  obtain ⟨rfl, rfl⟩ := pure_eq_some_iff.mp hread
  exact ⟨rfl, trivial⟩

end Reader

end NameRegistry.Binary
