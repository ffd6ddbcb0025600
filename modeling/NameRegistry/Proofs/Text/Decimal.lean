import NameRegistry.Proofs.Text.Utf8
import NameRegistry.Text.Scientific

namespace NameRegistry.Decimal

theorem forall_byte_lt {bound : UInt8} {property : UInt8 → Prop}
    (h : ∀ n < bound.toNat, property (.ofNat n)) : ∀ byte < bound, property byte := by
  intro byte hlt
  rw [← UInt8.ofNat_toNat (x := byte)]
  exact h byte.toNat (UInt8.lt_iff_toNat_lt.mp hlt)

theorem toNat_digit {n : Nat} (h : n < 10) : (0x30 + n.toUInt8).toNat = 0x30 + n := by
  have hn : (n.toUInt8).toNat = n := Utf8.toNat_ofNat (by omega)
  rw [UInt8.toNat_add, hn]
  change (0x30 + n) % 256 = 0x30 + n
  omega

theorem isDigit_digit {n : Nat} (h : n < 10) : isDigit (0x30 + n.toUInt8) = true := by
  rw [isDigit, Bool.and_eq_true, decide_eq_true_iff, decide_eq_true_iff, UInt8.le_iff_toNat_le,
    UInt8.le_iff_toNat_le, toNat_digit h]
  change 0x30 ≤ 0x30 + n ∧ 0x30 + n ≤ 0x39
  omega

theorem digits_ne_nil (n : Nat) : digits n ≠ [] := by
  rw [digits]
  split <;> simp

theorem isDigit_of_mem_digits (n : Nat) : ∀ byte ∈ digits n, isDigit byte = true := by
  induction n using digits.induct with
  | case1 n h =>
      rw [digits, if_pos h]
      simpa using isDigit_digit h
  | case2 n h ih =>
      rw [digits, if_neg h]
      simp only [List.forall_mem_append, List.forall_mem_singleton]
      exact ⟨ih, isDigit_digit (Nat.mod_lt n (by decide))⟩

theorem value_append (bytes : Bytes) (byte : UInt8) :
    value (bytes ++ [byte]) = 10 * value bytes + (byte.toNat - 0x30) := by
  rw [value, List.foldl_append]
  rfl

theorem value_digits (n : Nat) : value (digits n) = n := by
  induction n using digits.induct with
  | case1 n h =>
      rw [digits, if_pos h, ← List.nil_append [_], value_append, toNat_digit h]
      change 10 * 0 + (0x30 + n - 0x30) = n
      omega
  | case2 n h ih =>
      rw [digits, if_neg h, value_append, ih, toNat_digit (Nat.mod_lt n (by decide))]
      omega

theorem head_digits {n : Nat} (h : (digits n).head? = some 0x30) : n = 0 := by
  induction n using digits.induct with
  | case1 n hn =>
      rw [digits, if_pos hn] at h
      have hdigit := congrArg UInt8.toNat (Option.some.inj h)
      rw [toNat_digit hn] at hdigit
      change 0x30 + n = 0x30 at hdigit
      omega
  | case2 n hn ih =>
      rw [digits, if_neg hn, List.head?_append, List.head?_eq_some_head (digits_ne_nil _),
        Option.some_or, ← List.head?_eq_some_head (digits_ne_nil _)] at h
      have hzero := ih h
      omega

end NameRegistry.Decimal

namespace NameRegistry.Scientific

open Decimal

theorem le_foldl (digits : Bytes) (start : Nat) :
    start ≤ digits.foldl (fun n byte => 10 * n + (byte.toNat - 0x30)) start := by
  induction digits generalizing start with
  | nil => exact Nat.le_refl start
  | cons digit digits ih =>
      refine Nat.le_trans ?_ (ih _)
      change start ≤ 10 * start + (digit.toNat - 0x30)
      omega

theorem extend_of_lt (word : UInt64) (digits : Bytes)
    (h : digits.foldl (fun n byte => 10 * n + (byte.toNat - 0x30)) word.toNat <
      18446744073709551616) :
    extend word digits =
      (.ofNat (digits.foldl (fun n byte => 10 * n + (byte.toNat - 0x30)) word.toNat), []) := by
  induction digits generalizing word with
  | nil =>
      rw [extend, List.foldl_nil, UInt64.ofNat_toNat]
  | cons digit digits ih =>
      rw [List.foldl_cons] at h ⊢
      have hlonger := Nat.lt_of_le_of_lt (le_foldl digits _) h
      have htoNat : (UInt64.ofNat (10 * word.toNat + (digit.toNat - 0x30))).toNat =
          10 * word.toNat + (digit.toNat - 0x30) := UInt64.toNat_ofNat_of_lt hlonger
      rw [extend, if_pos hlonger, ih _ (by rwa [htoNat]), htoNat]

theorem ofDigits_digits (word : UInt64) : ofDigits (digits word.toNat) [] = ⟨word, 0⟩ := by
  have hvalue : (digits word.toNat).foldl (fun n byte => 10 * n + (byte.toNat - 0x30))
      (0 : UInt64).toNat = word.toNat := value_digits word.toNat
  have hextend := extend_of_lt 0 (digits word.toNat) (by rw [hvalue]; exact word.toNat_lt)
  rw [hvalue, UInt64.ofNat_toNat] at hextend
  simp only [ofDigits, hextend, extend]
  rfl

end NameRegistry.Scientific
