import NameRegistry.Text.Decimal
/-!
Decimals in scientific form. A decimal keeps as many of its leading digits as fit in a word. It is
evaluated in double precision by one multiplication, whose two factors, the significand and the
power of ten, have been rounded before.
-/
namespace NameRegistry

/-- A decimal: the significand times ten to the exponent. -/
structure Scientific where
  significand : UInt64
  exponent : Int
  deriving DecidableEq, Repr

namespace Scientific

/-- A word extended by digits for as long as the result fits in a word, and the digits that are
left over. -/
def extend (word : UInt64) : Bytes → UInt64 × Bytes
  | [] => (word, [])
  | digit :: rest =>
    let longer := 10 * word.toNat + (digit.toNat - 0x30)
    if longer < 18446744073709551616 then extend (UInt64.ofNat longer) rest
    else (word, digit :: rest)

/-- The decimal with the given digits before and behind its point. A digit before the point that
does not fit still counts as a place; those behind the point are tried anew. -/
def ofDigits (whole fraction : Bytes) : Scientific :=
  let (start, excess) := extend 0 whole
  let (significand, unread) := extend start fraction
  ⟨significand, excess.length + unread.length - fraction.length⟩

/-- The nearest multiple of a unit; of two that are as near, the even one. -/
def nearest (n unit : Nat) : Nat :=
  let below := n / unit
  let twice := 2 * (n % unit)
  if unit < twice ∨ (twice = unit ∧ below % 2 = 1) then (below + 1) * unit else below * unit

/-- A natural number rounded to the 53 binary digits of double precision. -/
def rounded (n : Nat) : Nat := nearest n (Nat.pow 2 (n.log2 + 1 - 53))

/-- The least number that rounds to infinity in double precision. -/
def firstInfinite : Nat := Nat.pow 2 1024 - Nat.pow 2 970

/-- Whether a decimal is finite in double precision. The greatest power of ten that is finite is
the one with 308 zeros. -/
def isFinite (decimal : Scientific) : Bool :=
  if decimal.significand = 0 ∨ decimal.exponent < 0 then true
  else if 308 < decimal.exponent then false
  else rounded decimal.significand.toNat * rounded (Nat.pow 10 decimal.exponent.toNat) <
    firstInfinite

end Scientific

end NameRegistry
