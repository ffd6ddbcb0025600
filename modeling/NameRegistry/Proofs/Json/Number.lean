import NameRegistry.Json.Token
import NameRegistry.Proofs.Text.Decimal

namespace NameRegistry.Json

open Decimal

/-- What may stand behind the digits of a number: nothing, or the mark of an exponent. -/
def EndsDigits (rest : Bytes) : Prop := rest = [] ∨ rest.head? = some 0x65

namespace EndsDigits

variable {rest : Bytes}

theorem takeWhile_digits (h : EndsDigits rest) (n : Nat) :
    (digits n ++ rest).takeWhile isDigit = digits n := by
  rw [List.takeWhile_append_of_pos (isDigit_of_mem_digits n)]
  obtain rfl | hhead := h
  · exact List.append_nil _
  · obtain ⟨more, rfl⟩ := List.head?_eq_some_iff.mp hhead
    exact List.append_nil _

theorem dropWhile_digits (h : EndsDigits rest) (n : Nat) :
    (digits n ++ rest).dropWhile isDigit = rest := by
  rw [List.dropWhile_append_of_pos (isDigit_of_mem_digits n)]
  obtain rfl | hhead := h
  · rfl
  · obtain ⟨more, rfl⟩ := List.head?_eq_some_iff.mp hhead
    rfl

end EndsDigits

/-- The sign of a number, and the bytes behind it. -/
def signed (negative : Bool) (bytes : Bytes) : Bytes :=
  if negative then 0x2D :: bytes else bytes

theorem writtenInteger_eq (value : Int) :
    writtenInteger value = signed (value < 0) (digits value.natAbs) := by
  simp only [writtenInteger, signed, decide_eq_true_eq]

theorem not_leading_zero (n : Nat) :
    ¬ ((digits n).head? = some 0x30 ∧ 1 < (digits n).length) := by
  rintro ⟨hhead, hlength⟩
  rw [head_digits hhead, digits, if_pos (by decide)] at hlength
  exact Nat.lt_irrefl 1 hlength

theorem digits_append_ne (n : Nat) (rest more : Bytes) {mark : UInt8}
    (h : isDigit mark = false) : digits n ++ rest ≠ mark :: more := by
  intro heq
  cases hdigits : digits n with
  | nil => exact digits_ne_nil n hdigits
  | cons first tail =>
      rw [hdigits, List.cons_append] at heq
      have hfirst := isDigit_of_mem_digits n first (hdigits ▸ List.mem_cons_self)
      rw [(List.cons.inj heq).1, h] at hfirst
      cases hfirst

theorem number?_signed {rest : Bytes} (h : EndsDigits rest) (negative : Bool) (n : Nat) :
    number? (signed negative (digits n ++ rest)) =
      numberAfter negative (digits n) none rest := by
  have hwhole : ¬ (digits n = [] ∨ ((digits n).head? = some 0x30 ∧ 1 < (digits n).length)) := by
    rintro (hnil | hzero)
    · exact digits_ne_nil n hnil
    · exact not_leading_zero n hzero
  -- Both reductions of the match on what follows the digits rest on this.
  have hpoint : ∀ more, rest = 0x2E :: more → False := by
    rintro more rfl
    obtain hnil | hhead := h
    · cases hnil
    · cases hhead
  cases negative with
  | false =>
      change number? (digits n ++ rest) = _
      rw [number?]
      · simp only [h.takeWhile_digits, h.dropWhile_digits, if_neg hwhole]
      · exact fun more => digits_append_ne n rest more rfl
  | true =>
      change number? (0x2D :: (digits n ++ rest)) = _
      rw [number?]
      simp only [h.takeWhile_digits, h.dropWhile_digits, if_neg hwhole]

theorem number?_writtenInteger (value : Int) :
    number? (writtenInteger value) = some (.integer value) := by
  have hword := number?_signed (Or.inl rfl) (value < 0) value.natAbs
  rw [List.append_nil] at hword
  have hnonzero : ¬ (value < 0 ∧ (value.natAbs : Int) = 0) := by omega
  have hvalue : (if value < 0 then -(value.natAbs : Int) else value.natAbs) = value := by
    split <;> omega
  rw [writtenInteger_eq, hword, numberAfter]
  simp only [value_digits, Option.isNone_none, decide_eq_true_eq, true_and, if_pos hnonzero,
    hvalue, reduceCtorEq, if_false]

theorem exponent?_writtenInteger (value : Int) :
    exponent? (writtenInteger value) = some value := by
  have hdigits : digits value.natAbs ≠ [] ∧ (digits value.natAbs).all isDigit = true :=
    ⟨digits_ne_nil _, List.all_eq_true.mpr (isDigit_of_mem_digits _)⟩
  have hunsigned (mark : UInt8) (h : isDigit mark = false) (more : Bytes) :
      digits value.natAbs ≠ mark :: more := by
    simpa using digits_append_ne value.natAbs [] more h
  rw [writtenInteger]
  split
  · next hnegative =>
      simp only [exponent?, if_pos hdigits, value_digits]
      exact congrArg some (by simp only [if_true]; omega)
  · next hnegative =>
      rw [exponent?]
      · simp only [if_pos hdigits, value_digits]
        exact congrArg some (by simp only [Bool.false_eq_true, if_false]; omega)
      · exact hunsigned _ rfl
      · exact hunsigned _ rfl

theorem number?_writtenReal (negative : Bool) (magnitude : Scientific) :
    number? (signed negative (digits magnitude.significand.toNat ++
      0x65 :: writtenInteger magnitude.exponent)) = some (.real negative magnitude) := by
  rw [number?_signed (Or.inr rfl), numberAfter]
  simp [exponent?_writtenInteger, Scientific.ofDigits_digits]

end NameRegistry.Json
