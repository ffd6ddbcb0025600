import NameRegistry.Config.Basic
import NameRegistry.Context

namespace NameRegistry

/-- An integer held at the ends of the range of words. -/
def clamped (n : Int) : Int := max (-9223372036854775808) (min n 9223372036854775807)

theorem toInt_ofIntClamp (n : Int) : (Int64.ofIntClamp n).toInt = clamped n := by
  have hleast : Int64.minValue.toInt = -9223372036854775808 := by decide
  have hgreatest : Int64.maxValue.toInt = 9223372036854775807 := by decide
  rw [Int64.ofIntClamp, clamped]
  split
  · split
    · rw [Int64.toInt_ofIntLE]
      omega
    · omega
  · omega

theorem toInt_addSeconds (a b : Int64) :
    (addSeconds a b).toInt = clamped (a.toInt + b.toInt) :=
  toInt_ofIntClamp _

theorem toInt_wholeSeconds (duration : Duration) :
    duration.wholeSeconds.toInt = min duration.seconds.toNat 9223372036854775807 := by
  rw [Duration.wholeSeconds, toInt_ofIntClamp, clamped]
  omega

theorem le_addSeconds {a b : Int64} (h : 0 ≤ b.toInt) : a.toInt ≤ (addSeconds a b).toInt := by
  have hleast := Int64.minValue_le_toInt a
  have hgreatest := Int64.toInt_lt a
  rw [toInt_addSeconds, clamped]
  omega

theorem wholeSeconds_nonneg (duration : Duration) : 0 ≤ duration.wholeSeconds.toInt := by
  rw [toInt_wholeSeconds]
  omega

theorem wholeSeconds_eq_zero_iff {duration : Duration} :
    duration.wholeSeconds = 0 ↔ duration.seconds = 0 := by
  have hzero : (0 : Int64).toInt = 0 := by decide
  rw [← Int64.toInt_inj, ← UInt64.toNat_inj, toInt_wholeSeconds, hzero]
  change _ ↔ duration.seconds.toNat = 0
  omega

theorem lt_addSeconds_iff {a b : Int64} (h : 0 ≤ b.toInt) :
    a < addSeconds a b ↔ b ≠ 0 ∧ a ≠ Int64.maxValue := by
  have hmin : Int64.minValue.toInt = -9223372036854775808 := by decide
  have hmax : Int64.maxValue.toInt = 9223372036854775807 := by decide
  have hzero : (0 : Int64).toInt = 0 := by decide
  have hleast := Int64.minValue_le_toInt a
  have hgreatest := Int64.toInt_lt a
  rw [Int64.lt_iff_toInt_lt, toInt_addSeconds, clamped, ne_eq, ne_eq, ← Int64.toInt_inj,
    ← Int64.toInt_inj, hmax, hzero]
  omega

theorem toInt_min (a b : Int64) : (min a b).toInt = min a.toInt b.toInt := by
  change (if a ≤ b then a else b).toInt = _
  rw [Int.min_def, apply_ite Int64.toInt]
  simp only [Int64.le_iff_toInt_le]

namespace Context

theorem toInt_now (context : Context) : context.now.toInt = context.seconds := by
  obtain ⟨hleast, hgreatest⟩ := context.in_calendar
  exact Int64.toInt_ofInt_of_le (by omega) (by omega)

/-- Whether a block comes after an instant, which may be out of the range of times. -/
def Passed (context : Context) (instant : Int) : Prop :=
  instant < context.seconds ∨ instant = context.seconds ∧ 0 < context.nanos.value

instance (context : Context) (instant : Int) : Decidable (context.Passed instant) :=
  inferInstanceAs (Decidable (_ ∨ _))

theorem isAfter_iff {context : Context} {second : Int64} :
    context.isAfter second = true ↔ context.Passed second.toInt := by
  simp only [isAfter, Passed, Bool.or_eq_true, Bool.and_eq_true, decide_eq_true_eq,
    @eq_comm _ context.seconds]

theorem not_isAfter_iff {context : Context} {second : Int64} :
    (!context.isAfter second) = true ↔ ¬ context.Passed second.toInt := by
  rw [Bool.not_eq_true', ← isAfter_iff, Bool.not_eq_true]

end Context

end NameRegistry
